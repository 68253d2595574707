import StreamLinks.Proofs.Query

/-!
# Queries as merged pairs

A query gives its pairs one after the other, and a later pair overwrites what an earlier one
gave for its key.  So a query in two parts has what the first part gives, overwritten by what
the second part gives.  A pair that does not decode takes no part in this.
-/

namespace StreamLinks.Query

/-- The piece is read as a key and a value: it is cut at its first equals sign, or has none
and an empty value, and both parts decode. -/
def Reads (piece : List Char) (pair : String × String) : Prop :=
  piece ≠ [] ∧ ∃ key value, (piece = key ++ '=' :: value ∨ piece = key ∧ value = []) ∧
    '=' ∉ key ∧ Text.decode? (formBytes key) = some pair.1 ∧
    Text.decode? (formBytes value) = some pair.2

/-- The pairs of a query that decode, in their order. -/
def readPairs (text : String) : List (String × String) :=
  (Text.splitAt '&' text.toList).filterMap readPiece?

/-- The query without the pairs that do not decode. -/
def readable (text : String) : String :=
  String.ofList (['&'].intercalate
    ((Text.splitAt '&' text.toList).filter fun piece => (readPiece? piece).isSome))

theorem decodePair?_eq_some {key value : List Char} {pair : String × String} :
    decodePair? (key, value) = some pair ↔
      Text.decode? (formBytes key) = some pair.1 ∧
        Text.decode? (formBytes value) = some pair.2 := by
  obtain ⟨name, content⟩ := pair
  unfold decodePair?
  cases Text.decode? (formBytes key) <;> cases Text.decode? (formBytes value) <;> simp

theorem readPiece?_eq_some {piece : List Char} {pair : String × String} :
    readPiece? piece = some pair ↔ Reads piece pair := by
  unfold readPiece? Reads
  cases piece with
  | nil => simp
  | cons c piece =>
      simp only [List.isEmpty_cons, Bool.false_eq_true, if_false, ne_eq, reduceCtorEq,
        not_false_eq_true, true_and]
      cases hcut : Text.cutAt? '=' (c :: piece) with
      | none =>
          have hnone := Text.cutAt?_eq_none.mp hcut
          rw [Option.getD_none, decodePair?_eq_some]
          constructor
          · intro hdecode
            exact ⟨c :: piece, [], .inr ⟨rfl, rfl⟩, hnone, hdecode⟩
          · rintro ⟨key, value, hwhole | ⟨rfl, rfl⟩, -, hdecode⟩
            · exact (hnone (by simp [hwhole])).elim
            · exact hdecode
      | some parts =>
          obtain ⟨front, back⟩ := parts
          obtain ⟨hwhole, hfront⟩ := Text.cutAt?_eq_some.mp hcut
          rw [Option.getD_some, decodePair?_eq_some]
          constructor
          · intro hdecode
            exact ⟨front, back, .inl hwhole, hfront, hdecode⟩
          · rintro ⟨key, value, hparts | ⟨rfl, -⟩, hkey, hdecode⟩
            · rw [hwhole] at hparts
              obtain ⟨rfl, rfl⟩ := Text.eq_of_first_separator hparts hfront hkey
              exact hdecode
            · exact (hkey (by simp [hwhole])).elim

theorem parse_eq_ofPairs (text : String) : parse text = Dictionary.ofPairs (readPairs text) := by
  rw [parse, filterMap_rawPairs, readPairs]

theorem readPairs_append (front back : String) :
    readPairs (front ++ "&" ++ back) = readPairs front ++ readPairs back := by
  have hwhole : (front ++ "&" ++ back).toList = front.toList ++ '&' :: back.toList := by simp
  rw [readPairs, hwhole, Text.splitAt_append_separator, List.filterMap_append]
  rfl

theorem readPairs_intercalate {pieces : List (List Char)} (hapart : ∀ piece ∈ pieces, '&' ∉ piece) :
    readPairs (String.ofList (['&'].intercalate pieces)) = pieces.filterMap readPiece? := by
  rw [readPairs, String.toList_ofList]
  by_cases hnone : pieces = []
  · rw [hnone]
    rfl
  · rw [Text.splitAt_intercalate hnone hapart]

theorem readPairs_readable (text : String) : readPairs (readable text) = readPairs text := by
  have hapart : ∀ piece ∈ (Text.splitAt '&' text.toList).filter
      (fun piece => (readPiece? piece).isSome), '&' ∉ piece := by
    intro piece hpiece
    exact Text.separator_not_mem (List.mem_of_mem_filter hpiece)
  rw [readable, readPairs_intercalate hapart, readPairs, List.filterMap_filter]
  congr 1
  funext piece
  cases readPiece? piece <;> rfl

/-- A query is read as its decodable pairs one after the other, and as nothing else: each key
stands where it comes first and has the value that comes last.  A query in two parts is read
as the first one overwritten by the second one, and pairs that do not decode may as well be
left out. -/
theorem parse_is_last_wins_merge :
    (∀ piece pair, readPiece? piece = some pair ↔ Reads piece pair) ∧
    (∀ text found, found = parse text ↔ Dictionary.IsLastWins (readPairs text) found) ∧
    (∀ front back, parse (front ++ "&" ++ back) = (parse front).overwrittenBy (parse back)) ∧
    ∀ text, parse (readable text) = parse text := by
  refine ⟨fun _ _ => readPiece?_eq_some, ?_, ?_, ?_⟩
  · intro text found
    rw [parse_eq_ofPairs, Dictionary.isLastWins_iff]
  · intro front back
    simp only [parse_eq_ofPairs, readPairs_append, Dictionary.ofPairs_append]
  · intro text
    rw [parse_eq_ofPairs, readPairs_readable, ← parse_eq_ofPairs]

end StreamLinks.Query
