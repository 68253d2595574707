import StreamLinks.Proofs.Stream.Maps

/-!
# The mark of a scrambled signature

A stream map is searched for the raw text `s=` where a field starts, whereas an entry
takes its signature from the field whose key reads `s`.  A key reads `s` when it is
written `s` or `%73` and in no other way, and the equals sign may be missing.  Where
none of these spellings hides the key, an entry with a scrambled signature has the map
marked.
-/

namespace StreamLinks

variable {map : String} {field key fragment : List Char}

/-- The key of the field reads `s`, but the field does not start with `s=`. -/
def HidesKey (field : List Char) : Prop :=
  field = ['s'] ∨ field = ['%', '7', '3'] ∨ ['%', '7', '3', '='] <+: field

/-- No field of the fragment hides its key. -/
def ShowsKey (fragment : List Char) : Prop :=
  ∀ field ∈ Text.splitAt '&' fragment, ¬ HidesKey field

/-- No field of any fragment of the stream map hides its key. -/
def ShowsKeys (map : String) : Prop :=
  ∀ fragment ∈ Text.splitAt ',' map.toList, ShowsKey fragment

instance (field : List Char) : Decidable (HidesKey field) :=
  inferInstanceAs (Decidable (_ ∨ _ ∨ _))

instance (fragment : List Char) : Decidable (ShowsKey fragment) :=
  inferInstanceAs (Decidable (∀ field ∈ _, _))

instance (map : String) : Decidable (ShowsKeys map) :=
  inferInstanceAs (Decidable (∀ fragment ∈ _, _))

/-! ## The spellings of the key -/

theorem utf8EncodeChar_eq_letter {c : Char} (hc : String.utf8EncodeChar c = [0x73]) :
    c = 's' := by
  have hchar : Text.decode? [0x73] = some (String.ofList [c]) := by
    rw [Query.decode?_eq_some, String.toList_ofList, List.flatMap_singleton, hc]
  have hletter : Text.decode? [0x73] = some (String.ofList ['s']) := by
    rw [Query.decode?_eq_some, String.toList_ofList, List.flatMap_singleton]
    decide
  rw [hletter, Option.some.injEq, String.ofList_inj] at hchar
  exact (List.singleton_inj.mp hchar).symm

theorem spelling_of_key (hkey : Text.decode? (Query.formBytes key) = some "s") :
    key = ['s'] ∨ key = ['%', '7', '3'] := by
  have hbytes : Text.percentBytesFrom 0 (key.map fun c => if c = '+' then ' ' else c) =
      [0x73] := by
    have hwhole := Query.decode?_eq_some.mp hkey
    have hletter : "s".toList.flatMap String.utf8EncodeChar = [0x73] := by decide +kernel
    rwa [hletter] at hwhole
  have hplain : ∀ {c d : Char}, (if c = '+' then ' ' else c) = d → d ≠ ' ' → c = d := by
    intro c d hc hd
    split_ifs at hc
    · exact (hd hc.symm).elim
    · exact hc
  rcases Query.percentBytesFrom_eq_singleton hbytes with ⟨c, htext, hc⟩ | hescape
  · rw [utf8EncodeChar_eq_letter hc, List.map_eq_singleton_iff] at htext
    obtain ⟨first, rfl, hfirst⟩ := htext
    rw [hplain hfirst (by decide)]
    exact .inl rfl
  · obtain ⟨high, low, htext, hhigh, hlow⟩ := hescape
    have hseven : high = '7' := by
      rcases (Query.digitChar_of_hexValue? hhigh).2 with h | h <;> exact h
    have hthree : low = '3' := by
      rcases (Query.digitChar_of_hexValue? hlow).2 with h | h <;> exact h
    rw [hseven, hthree, List.map_eq_cons_iff] at htext
    obtain ⟨first, others, rfl, hfirst, hothers⟩ := htext
    rw [List.map_eq_cons_iff] at hothers
    obtain ⟨second, others, rfl, hsecond, hothers⟩ := hothers
    rw [List.map_eq_singleton_iff] at hothers
    obtain ⟨third, rfl, hthird⟩ := hothers
    rw [hplain hfirst (by decide), hplain hsecond (by decide), hplain hthird (by decide)]
    exact .inr rfl

/-- A field that is read as a scrambled signature starts with the mark or hides its key. -/
theorem marks_or_hides {value : String} (hread : Query.readPiece? field = some ("s", value)) :
    ['s', '='] <+: field ∨ HidesKey field := by
  unfold Query.readPiece? at hread
  split at hread
  · cases hread
  · obtain ⟨name, hname, hvalue⟩ := Option.bind_eq_some_iff.mp hread
    obtain ⟨text, -, hpair⟩ := Option.bind_eq_some_iff.mp hvalue
    cases hpair
    cases hcut : Text.cutAt? '=' field with
    | none =>
        rw [hcut, Option.getD_none] at hname
        rcases spelling_of_key hname with rfl | rfl
        · exact .inr (.inl rfl)
        · exact .inr (.inr (.inl rfl))
    | some parts =>
        obtain ⟨front, back⟩ := parts
        rw [hcut, Option.getD_some] at hname
        obtain ⟨rfl, -⟩ := Text.cutAt?_eq_some.mp hcut
        rcases spelling_of_key hname with rfl | rfl
        · exact .inl ⟨back, rfl⟩
        · exact .inr (.inr (.inr ⟨back, rfl⟩))

/-! ## Entries with scrambled signatures -/

theorem StreamEntry.get?_of_scrambled {text : String} {entry : StreamEntry} {scrambled : String}
    (hentry : ofFragment? text = some entry) (hsignature : entry.signature = .scrambled scrambled) :
    (Query.parse text).get? "s" = some scrambled := by
  unfold ofFragment? at hentry
  obtain ⟨itag, -, hrest⟩ := Option.bind_eq_some_iff.mp hentry
  obtain ⟨url, -, hfound⟩ := Option.bind_eq_some_iff.mp hrest
  cases hfound
  have hchoice : signatureOf (Query.parse text) = .scrambled scrambled := hsignature
  unfold signatureOf at hchoice
  split at hchoice
  next => cases hchoice
  next found hfield =>
    cases hchoice
    exact hfield
  next => cases hchoice

theorem splitWhere_isFieldEnd (text : List Char) :
    Text.splitWhere isFieldEnd text = (Text.splitAt ',' text).flatMap (Text.splitAt '&') :=
  Text.splitWhere_or (· == '&') (· == ',') text

/-- An entry with a scrambled signature has the stream map marked, unless it hides its
key. -/
theorem isScrambled_of_entry {entry : StreamEntry} {scrambled : String}
    (hfragment : fragment ∈ Text.splitAt ',' map.toList) (hshows : ShowsKey fragment)
    (hentry : StreamEntry.ofFragment? (String.ofList fragment) = some entry)
    (hsignature : entry.signature = .scrambled scrambled) : isScrambled map = true := by
  have hget := StreamEntry.get?_of_scrambled hentry hsignature
  obtain ⟨field, hfield, hread⟩ := Query.exists_piece_of_get?_parse hget
  rw [String.toList_ofList] at hfield
  have hmem : field ∈ Text.splitWhere isFieldEnd map.toList := by
    rw [splitWhere_isFieldEnd, List.mem_flatMap]
    exact ⟨fragment, hfragment, hfield⟩
  rcases marks_or_hides hread with hmark | hhides
  · exact isScrambled_iff.mpr ⟨field, hmem, hmark⟩
  · exact (hshows field hfield hhides).elim

/-- A key that is escaped, or has no equals sign behind it, is read but not marked. -/
theorem hidden_keys_are_not_marked :
    (isScrambled "itag=1&url=u&%73=x" = false ∧
        fragments "itag=1&url=u&%73=x" = ["itag=1&url=u&%73=x"] ∧
        StreamEntry.ofFragment? "itag=1&url=u&%73=x" =
          some ⟨"1", none, none, "u", .scrambled "x"⟩) ∧
      isScrambled "itag=1&url=u&s" = false ∧
        fragments "itag=1&url=u&s" = ["itag=1&url=u&s"] ∧
        StreamEntry.ofFragment? "itag=1&url=u&s" =
          some ⟨"1", none, none, "u", .scrambled ""⟩ := by
  decide +kernel

end StreamLinks
