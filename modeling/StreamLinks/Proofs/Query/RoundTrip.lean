import StreamLinks.Proofs.Query

/-!
# Form encoding and back

Form encoding writes the letters and digits of ASCII and four of its marks as they are and
escapes all other bytes.  Every query of text can be encoded in this way, and reading what
was encoded gives the query back.
-/

namespace StreamLinks.Query

/-- The bytes that form encoding leaves as they are. -/
def isUnreserved (byte : UInt8) : Bool :=
  (Char.ofUInt8 byte).isAlphanum || ['-', '.', '_', '~'].contains (Char.ofUInt8 byte)

/-- The form encodings of bytes.  The digits of an escape may have either case, and a blank
may be written as a plus sign. -/
inductive FormEncodes : (bytes : List UInt8) → (text : List Char) → Prop
  | done : FormEncodes [] []
  | unreserved {byte : UInt8} {bytes : List UInt8} {text : List Char}
      (hbyte : isUnreserved byte = true) (hrest : FormEncodes bytes text) :
      FormEncodes (byte :: bytes) (Char.ofUInt8 byte :: text)
  | blank {bytes : List UInt8} {text : List Char} (hrest : FormEncodes bytes text) :
      FormEncodes (0x20 :: bytes) ('+' :: text)
  | escape {byte : UInt8} {high low : Char} {bytes : List UInt8} {text : List Char}
      (hbyte : isUnreserved byte = false)
      (hhigh : Text.hexValue? high = some (byte.toNat / 16))
      (hlow : Text.hexValue? low = some (byte.toNat % 16)) (hrest : FormEncodes bytes text) :
      FormEncodes (byte :: bytes) ('%' :: high :: low :: text)

/-- The text is a form encoding of the bytes of a value in UTF-8. -/
def FormWrites (value : String) (text : List Char) : Prop :=
  FormEncodes (value.toList.flatMap String.utf8EncodeChar) text

/-- The piece is a form-encoded key and a form-encoded value with an equals sign between
them. -/
def FormWritesPair (pair : String × String) (piece : List Char) : Prop :=
  ∃ key value, FormWrites pair.1 key ∧ FormWrites pair.2 value ∧ piece = key ++ '=' :: value

/-- The query is a form encoding of the pairs, with ampersands between them. -/
def FormWritesQuery (pairs : List (String × String)) (query : String) : Prop :=
  ∃ pieces, List.Forall₂ FormWritesPair pairs pieces ∧
    query = String.ofList (['&'].intercalate pieces)

variable {bytes : List UInt8} {text : List Char} {pairs : List (String × String)}

/-! ## Form encodings are read -/

theorem isMark_of_isUnreserved : ∀ n < 256, isUnreserved (UInt8.ofNat n) = true →
    isMark (Char.ofUInt8 (UInt8.ofNat n)) = false ∧
      String.utf8EncodeChar (Char.ofUInt8 (UInt8.ofNat n)) = [UInt8.ofNat n] := by
  decide +kernel

theorem FormEncodes.encodes (hencodes : FormEncodes bytes text) : Encodes bytes text := by
  induction hencodes with
  | done => exact .done
  | @unreserved byte bytes text hbyte hrest ih =>
      have hclass := isMark_of_isUnreserved byte.toNat byte.toNat_lt
      rw [UInt8.ofNat_toNat] at hclass
      obtain ⟨hmark, hutf8⟩ := hclass hbyte
      have hplain := Encodes.plain hmark ih
      rwa [hutf8] at hplain
  | blank hrest ih => exact .plus ih
  | escape hbyte hhigh hlow hrest ih => exact .escape hhigh hlow ih

theorem FormWritesQuery.writesQuery {query : String} (hwrites : FormWritesQuery pairs query) :
    WritesQuery pairs query.toList := by
  obtain ⟨pieces, hpieces, rfl⟩ := hwrites
  refine ⟨pieces, hpieces.imp ?_, String.toList_ofList⟩
  rintro pair piece ⟨key, value, hkey, hvalue, rfl⟩
  exact ⟨key, value, FormEncodes.encodes hkey, FormEncodes.encodes hvalue, rfl⟩

/-! ## Characters of form encodings -/

/-- A visible character of ASCII that does not start a fragment. -/
def IsQueryChar (c : Char) : Prop :=
  0x20 < c.toNat ∧ c.toNat < 0x7F ∧ c ≠ '#'

instance (c : Char) : Decidable (IsQueryChar c) :=
  inferInstanceAs (Decidable (_ ∧ _ ∧ _))

theorem isQueryChar_of_isUnreserved : ∀ n < 256, isUnreserved (UInt8.ofNat n) = true →
    IsQueryChar (Char.ofUInt8 (UInt8.ofNat n)) := by
  decide +kernel

theorem isQueryChar_of_hexValue? {c : Char} {digit : Nat}
    (hdigit : Text.hexValue? c = some digit) : IsQueryChar c := by
  have hdigits : ∀ digit < 16, IsQueryChar digit.digitChar ∧
      IsQueryChar digit.digitChar.toUpper := by decide
  obtain ⟨hlt, rfl | rfl⟩ := digitChar_of_hexValue? hdigit
  · exact (hdigits digit hlt).1
  · exact (hdigits digit hlt).2

theorem FormEncodes.isQueryChar (hencodes : FormEncodes bytes text) :
    ∀ c ∈ text, IsQueryChar c := by
  induction hencodes with
  | done => simp
  | @unreserved byte bytes text hbyte hrest ih =>
      have hchar := isQueryChar_of_isUnreserved byte.toNat byte.toNat_lt
      rw [UInt8.ofNat_toNat] at hchar
      exact List.forall_mem_cons.mpr ⟨hchar hbyte, ih⟩
  | blank hrest ih => exact List.forall_mem_cons.mpr ⟨by decide, ih⟩
  | escape hbyte hhigh hlow hrest ih =>
      rw [List.forall_mem_cons, List.forall_mem_cons, List.forall_mem_cons]
      exact ⟨by decide, isQueryChar_of_hexValue? hhigh, isQueryChar_of_hexValue? hlow, ih⟩

theorem FormWritesPair.isQueryChar {pair : String × String} {piece : List Char}
    (hwrites : FormWritesPair pair piece) : ∀ c ∈ piece, IsQueryChar c := by
  obtain ⟨key, value, hkey, hvalue, rfl⟩ := hwrites
  intro c hc
  rcases List.mem_append.mp hc with hc | hc
  · exact FormEncodes.isQueryChar hkey c hc
  · rcases List.mem_cons.mp hc with rfl | hc
    · decide
    · exact FormEncodes.isQueryChar hvalue c hc

theorem FormWritesQuery.isQueryChar {query : String} (hwrites : FormWritesQuery pairs query) :
    ∀ c ∈ query.toList, IsQueryChar c := by
  obtain ⟨pieces, hpieces, rfl⟩ := hwrites
  intro c hc
  rw [String.toList_ofList] at hc
  rcases Text.mem_of_mem_intercalate hc with rfl | ⟨piece, hpiece, hc⟩
  · decide
  · obtain ⟨pair, -, hpair⟩ := Text.exists_of_forall₂ hpieces.flip hpiece
    exact FormWritesPair.isQueryChar hpair c hc

/-! ## Everything can be encoded -/

theorem exists_formEncodes (bytes : List UInt8) : ∃ text, FormEncodes bytes text := by
  induction bytes with
  | nil => exact ⟨[], .done⟩
  | cons byte bytes ih =>
      obtain ⟨text, hrest⟩ := ih
      cases hbyte : isUnreserved byte with
      | true => exact ⟨_, .unreserved hbyte hrest⟩
      | false =>
          have hlt := byte.toNat_lt
          exact ⟨_, .escape hbyte (hexValue?_digitChar (by omega)) (hexValue?_digitChar (by omega))
            hrest⟩

theorem exists_formWritesQuery (pairs : List (String × String)) :
    ∃ query, FormWritesQuery pairs query := by
  have hpieces : ∃ pieces, List.Forall₂ FormWritesPair pairs pieces := by
    induction pairs with
    | nil => exact ⟨[], .nil⟩
    | cons pair pairs ih =>
        obtain ⟨pieces, hpieces⟩ := ih
        obtain ⟨key, hkey⟩ : ∃ text, FormWrites pair.1 text := exists_formEncodes _
        obtain ⟨value, hvalue⟩ : ∃ text, FormWrites pair.2 text := exists_formEncodes _
        exact ⟨_, .cons ⟨key, value, hkey, hvalue, rfl⟩ hpieces⟩
  obtain ⟨pieces, hpieces⟩ := hpieces
  exact ⟨_, pieces, hpieces, rfl⟩

/-- Every list of pairs has form encodings, and if no key is repeated each of them is read as
the same list. -/
theorem form_decoding_undoes_encoding (pairs : List (String × String)) :
    (∃ query, FormWritesQuery pairs query) ∧
      ((pairs.map Prod.fst).Nodup → ∀ query, FormWritesQuery pairs query →
        (parse query).entries = pairs) := by
  refine ⟨exists_formWritesQuery pairs, ?_⟩
  intro hnodup query hwrites
  rw [hwrites.writesQuery.parse_eq, Dictionary.ofPairs_of_nodup hnodup]

/-- An accent in two escapes of different case, every mark that a query knows, and no key. -/
theorem form_decoding_undoes_encoding_of_marks :
    ([("é", "+ %"), ("", "a=b&")].map Prod.fst).Nodup ∧
      FormWritesQuery [("é", "+ %"), ("", "a=b&")] "%c3%A9=%2B+%25&=a%3Db%26" ∧
      (parse "%c3%A9=%2B+%25&=a%3Db%26").entries = [("é", "+ %"), ("", "a=b&")] := by
  have haccent : FormWrites "é" "%c3%A9".toList := by
    have hbytes : "é".toList.flatMap String.utf8EncodeChar = [0xC3, 0xA9] := by decide +kernel
    rw [FormWrites, hbytes]
    exact .escape rfl rfl rfl (.escape rfl rfl rfl .done)
  have hmarks : FormWrites "+ %" "%2B+%25".toList := by
    have hbytes : "+ %".toList.flatMap String.utf8EncodeChar = [0x2B, 0x20, 0x25] := by
      decide +kernel
    rw [FormWrites, hbytes]
    exact .escape rfl rfl rfl (.blank (.escape rfl rfl rfl .done))
  have hseparators : FormWrites "a=b&" "a%3Db%26".toList := by
    have hbytes : "a=b&".toList.flatMap String.utf8EncodeChar = [0x61, 0x3D, 0x62, 0x26] := by
      decide +kernel
    rw [FormWrites, hbytes]
    exact .unreserved rfl (.escape rfl rfl rfl (.unreserved rfl (.escape rfl rfl rfl .done)))
  have hpieces : List.Forall₂ FormWritesPair [("é", "+ %"), ("", "a=b&")]
      ["%c3%A9=%2B+%25".toList, "=a%3Db%26".toList] :=
    .cons ⟨_, _, haccent, hmarks, by decide +kernel⟩
      (.cons ⟨[], _, .done, hseparators, by decide +kernel⟩ .nil)
  have hwrites : FormWritesQuery [("é", "+ %"), ("", "a=b&")] "%c3%A9=%2B+%25&=a%3Db%26" :=
    ⟨_, hpieces, by decide +kernel⟩
  have hnodup : ([("é", "+ %"), ("", "a=b&")].map Prod.fst).Nodup := by decide
  exact ⟨hnodup, hwrites, (form_decoding_undoes_encoding _).2 hnodup _ hwrites⟩

end StreamLinks.Query
