import StreamLinks.Proofs.Query.Merging
import StreamLinks.Stream.Entry

/-!
# Fields of an entry

An entry of a stream map looks at seven keys of its fragment, each time at the last value
that decodes.  So the order of pairs with different keys does not matter to it, and neither
do pairs with other keys.
-/

namespace StreamLinks.StreamEntry

/-- The keys that an entry looks at. -/
def fieldNames : List String :=
  ["itag", "type", "quality", "quality_label", "url", "sig", "s"]

/-- The last value that a fragment gives to a key, among the pairs that decode. -/
def lastValue? (fragment key : String) : Option String :=
  ((Query.readPairs fragment).reverse.find? fun pair => pair.1 == key).map Prod.snd

/-- The fragment consists of the pieces, in any order, and of others between them that do not
decode or have a key that no entry looks at. -/
def Arranges (pieces : List (List Char)) (fragment : String) : Prop :=
  ∃ padding, (Text.splitAt '&' fragment.toList).Perm (pieces ++ padding) ∧
    ∀ pair ∈ padding.filterMap Query.readPiece?, pair.1 ∉ fieldNames

/-- The entry has what the last values say.  A plain signature counts before a scrambled one
and the quality before its label, wherever they stand. -/
structure HasValues (last : String → Option String) (entry : StreamEntry) : Prop where
  itag_eq : last "itag" = some entry.itag
  url_eq : last "url" = some entry.url
  mimeType_eq : entry.mimeType = nonEmpty (last "type")
  quality_of_own : ∀ text, last "quality" = some text → entry.quality = nonEmpty (some text)
  quality_of_label : last "quality" = none → entry.quality = nonEmpty (last "quality_label")
  signature_of_plain : ∀ text, last "sig" = some text → entry.signature = .plain text
  signature_of_scrambled : last "sig" = none → ∀ text, last "s" = some text →
    entry.signature = .scrambled text
  signature_absent : last "sig" = none → last "s" = none → entry.signature = .absent

variable {fragment other key : String} {pieces : List (List Char)}

/-! ## What an entry looks at -/

theorem get?_parse (fragment key : String) :
    (Query.parse fragment).get? key = lastValue? fragment key := by
  rw [Query.parse_eq_ofPairs, Dictionary.get?_ofPairs, lastValue?]

theorem ofFragment?_congr
    (hfields : ∀ key ∈ fieldNames, lastValue? fragment key = lastValue? other key) :
    ofFragment? fragment = ofFragment? other := by
  simp only [fieldNames, List.forall_mem_cons, List.not_mem_nil, false_imp_iff, implies_true,
    and_true] at hfields
  obtain ⟨hitag, htype, hquality, hlabel, hurl, hsig, hs⟩ := hfields
  simp only [ofFragment?, signatureOf, get?_parse, hitag, htype, hquality, hlabel, hurl, hsig, hs]

/-- Pairs with other keys may be left out of a lookup. -/
theorem lastValue?_eq_filter (hkey : key ∈ fieldNames) :
    lastValue? fragment key = (Dictionary.ofPairs
      ((Query.readPairs fragment).filter fun pair => pair.1 ∈ fieldNames)).get? key := by
  rw [Dictionary.get?_ofPairs, ← List.filter_reverse, List.find?_filter, lastValue?]
  congr 2
  funext pair
  by_cases hpair : pair.1 = key
  · simp [hpair, hkey]
  · simp [hpair]

theorem Arranges.fields_perm (harranges : Arranges pieces fragment) :
    ((Query.readPairs fragment).filter fun pair => pair.1 ∈ fieldNames).Perm
      ((pieces.filterMap Query.readPiece?).filter fun pair => pair.1 ∈ fieldNames) := by
  obtain ⟨padding, hperm, hpadding⟩ := harranges
  have hnone : (padding.filterMap Query.readPiece?).filter (fun pair => pair.1 ∈ fieldNames) =
      [] := by
    rw [List.filter_eq_nil_iff]
    intro pair hpair
    simpa using hpadding pair hpair
  have hread := (hperm.filterMap Query.readPiece?).filter fun pair => decide (pair.1 ∈ fieldNames)
  rwa [List.filterMap_append, List.filter_append, hnone, List.append_nil] at hread

theorem Arranges.ofFragment?_eq (hnodup : ((pieces.filterMap Query.readPiece?).map Prod.fst).Nodup)
    (hfragment : Arranges pieces fragment) (hother : Arranges pieces other) :
    ofFragment? fragment = ofFragment? other := by
  have hfields : (((pieces.filterMap Query.readPiece?).filter
      fun pair => pair.1 ∈ fieldNames).map Prod.fst).Nodup :=
    hnodup.sublist (List.filter_sublist.map Prod.fst)
  apply ofFragment?_congr
  intro key hkey
  rw [lastValue?_eq_filter hkey, lastValue?_eq_filter hkey,
    Dictionary.get?_ofPairs_of_perm hfragment.fields_perm hfields,
    Dictionary.get?_ofPairs_of_perm hother.fields_perm hfields]

/-! ## What becomes of the values -/

theorem nonEmpty_eq_none {value : Option String} :
    nonEmpty value = none ↔ value = none ∨ value = some "" := by
  cases value <;> simp [nonEmpty]

theorem eq_some_of_nonEmpty {value : Option String} {text : String}
    (hvalue : nonEmpty value = some text) : value = some text :=
  (Option.filter_eq_some_iff.mp hvalue).1

theorem ofFragment?_eq_none : ofFragment? fragment = none ↔
    nonEmpty (lastValue? fragment "itag") = none ∨ nonEmpty (lastValue? fragment "url") = none := by
  simp only [ofFragment?, get?_parse]
  cases nonEmpty (lastValue? fragment "itag") <;>
    cases nonEmpty (lastValue? fragment "url") <;> simp

theorem hasValues_of_ofFragment? {entry : StreamEntry} (hentry : ofFragment? fragment = some entry) :
    HasValues (lastValue? fragment) entry := by
  simp only [ofFragment?, get?_parse] at hentry
  obtain ⟨itag, hitag, hrest⟩ := Option.bind_eq_some_iff.mp hentry
  obtain ⟨url, hurl, hfound⟩ := Option.bind_eq_some_iff.mp hrest
  cases hfound
  constructor
  case itag_eq => exact eq_some_of_nonEmpty hitag
  case url_eq => exact eq_some_of_nonEmpty hurl
  case mimeType_eq => rfl
  case quality_of_own =>
    intro text hown
    simp [hown]
  case quality_of_label =>
    intro hnone
    simp [hnone]
  case signature_of_plain =>
    intro text hplain
    simp [signatureOf, get?_parse, hplain]
  case signature_of_scrambled =>
    intro hnone text hscrambled
    simp [signatureOf, get?_parse, hnone, hscrambled]
  case signature_absent =>
    intro hplain hscrambled
    simp [signatureOf, get?_parse, hplain, hscrambled]

/-- Fragments of the same pairs in different order are read as the same entry, whatever pairs
with other keys stand between them.  An entry is missing exactly if the last itag or the last
URL that decodes is missing or empty; otherwise it has what the last values say. -/
theorem entries_in_any_order :
    (∀ pieces fragment other, ((pieces.filterMap Query.readPiece?).map Prod.fst).Nodup →
      Arranges pieces fragment → Arranges pieces other →
      ofFragment? fragment = ofFragment? other) ∧
    (∀ fragment, ofFragment? fragment = none ↔
      (lastValue? fragment "itag" = none ∨ lastValue? fragment "itag" = some "") ∨
        lastValue? fragment "url" = none ∨ lastValue? fragment "url" = some "") ∧
    ∀ fragment entry, ofFragment? fragment = some entry →
      HasValues (lastValue? fragment) entry := by
  refine ⟨?_, ?_, fun _ _ => hasValues_of_ofFragment?⟩
  · intro pieces fragment other hnodup hfragment hother
    exact hfragment.ofFragment?_eq hnodup hother
  · intro fragment
    rw [ofFragment?_eq_none, nonEmpty_eq_none, nonEmpty_eq_none]

/-- The pairs of an entry with both signatures. -/
def signedPieces : List (List Char) :=
  ["s=x", "sig=y", "itag=1", "url=u"].map String.toList

/-- The plain signature in front of the scrambled one and behind it, with further pairs that
do not count: a value that does not decode, and a key that no entry looks at. -/
theorem entries_in_any_order_of_signatures :
    ((signedPieces.filterMap Query.readPiece?).map Prod.fst).Nodup ∧
      Arranges signedPieces "itag=1&sig=y&url=u&s=x" ∧
      Arranges signedPieces "n=1&s=x&sig=y&sig=%FF&url=u&n=2&itag=1" ∧
      ofFragment? "itag=1&sig=y&url=u&s=x" =
        ofFragment? "n=1&s=x&sig=y&sig=%FF&url=u&n=2&itag=1" ∧
      ofFragment? "itag=1&sig=y&url=u&s=x" = some ⟨"1", none, none, "u", .plain "y"⟩ ∧
      HasValues (lastValue? "itag=1&sig=y&url=u&s=x") ⟨"1", none, none, "u", .plain "y"⟩ := by
  have hnodup : ((signedPieces.filterMap Query.readPiece?).map Prod.fst).Nodup := by
    decide +kernel
  have hplain : Arranges signedPieces "itag=1&sig=y&url=u&s=x" :=
    ⟨[], by decide +kernel, by simp⟩
  have hpadded : Arranges signedPieces "n=1&s=x&sig=y&sig=%FF&url=u&n=2&itag=1" :=
    ⟨["n=1", "sig=%FF", "n=2"].map String.toList, by decide +kernel, by decide +kernel⟩
  have hentry : ofFragment? "itag=1&sig=y&url=u&s=x" = some ⟨"1", none, none, "u", .plain "y"⟩ := by
    decide +kernel
  exact ⟨hnodup, hplain, hpadded, entries_in_any_order.1 _ _ _ hnodup hplain hpadded, hentry,
    entries_in_any_order.2.2 _ _ hentry⟩

end StreamLinks.StreamEntry
