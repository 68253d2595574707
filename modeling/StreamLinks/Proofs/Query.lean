import Mathlib.Tactic.IntervalCases
import StreamLinks.Proofs.Dictionary
import StreamLinks.Proofs.Text.Pieces
import StreamLinks.Query

/-!
# Writing queries

Form-encoded text writes bytes: a plus sign stands for a space, escapes stand for any
byte, and what is not a mark of queries and lists may stand for itself.  So no such mark
is left in the text, a query of written pairs comes apart into these pairs, and each of
them is read as what it writes, whatever characters that has.
-/

namespace StreamLinks.Query

/-- The characters that cannot stand for themselves. -/
def isMark (c : Char) : Bool :=
  c == '%' || c == '+' || c == '&' || c == '=' || c == ','

/-- Form-encoded text and the bytes that it writes.  Digits of escapes may have either
case, and any character may be escaped. -/
inductive Encodes : (bytes : List UInt8) → (text : List Char) → Prop
  | done : Encodes [] []
  | plain {c : Char} {bytes : List UInt8} {text : List Char} (hc : isMark c = false)
      (hrest : Encodes bytes text) : Encodes (String.utf8EncodeChar c ++ bytes) (c :: text)
  | plus {bytes : List UInt8} {text : List Char} (hrest : Encodes bytes text) :
      Encodes (0x20 :: bytes) ('+' :: text)
  | escape {byte : UInt8} {high low : Char} {bytes : List UInt8} {text : List Char}
      (hhigh : Text.hexValue? high = some (byte.toNat / 16))
      (hlow : Text.hexValue? low = some (byte.toNat % 16)) (hrest : Encodes bytes text) :
      Encodes (byte :: bytes) ('%' :: high :: low :: text)

/-- The text writes a value, whose characters are encoded in UTF-8. -/
def Writes (value : String) (text : List Char) : Prop :=
  Encodes (value.toList.flatMap String.utf8EncodeChar) text

def WritesPair (pair : String × String) (piece : List Char) : Prop :=
  ∃ key value, Writes pair.1 key ∧ Writes pair.2 value ∧ piece = key ++ '=' :: value

/-- The text writes the pairs one after the other between ampersands. -/
def WritesQuery (pairs : List (String × String)) (text : List Char) : Prop :=
  ∃ pieces, List.Forall₂ WritesPair pairs pieces ∧ text = ['&'].intercalate pieces

/-! ## Characters of encoded text -/

theorem ne_of_not_mark {c mark : Char} (hc : isMark c = false) (hmark : isMark mark = true) :
    c ≠ mark := by
  rintro rfl
  rw [hc] at hmark
  cases hmark

theorem not_mark_of_hexValue? {c : Char} {n : Nat} (hc : Text.hexValue? c = some n) :
    isMark c = false := by
  cases hmark : isMark c with
  | false => rfl
  | true =>
      simp only [isMark, Bool.or_eq_true, beq_iff_eq] at hmark
      have hnone : Text.hexValue? c = none := by
        rcases hmark with (((rfl | rfl) | rfl) | rfl) | rfl <;> decide
      rw [hnone] at hc
      cases hc

theorem Encodes.mem {bytes : List UInt8} {text : List Char} (hencodes : Encodes bytes text) :
    ∀ c ∈ text, isMark c = false ∨ c = '+' ∨ c = '%' := by
  induction hencodes with
  | done => simp
  | plain hc hrest ih =>
      rw [List.forall_mem_cons]
      exact ⟨.inl hc, ih⟩
  | plus hrest ih =>
      rw [List.forall_mem_cons]
      exact ⟨.inr (.inl rfl), ih⟩
  | escape hhigh hlow hrest ih =>
      rw [List.forall_mem_cons, List.forall_mem_cons, List.forall_mem_cons]
      exact ⟨.inr (.inr rfl), .inl (not_mark_of_hexValue? hhigh),
        .inl (not_mark_of_hexValue? hlow), ih⟩

theorem Writes.ne_separator {value : String} {text : List Char} (hwrites : Writes value text)
    {mark : Char} (hmark : mark = '&' ∨ mark = '=' ∨ mark = ',') : mark ∉ text := by
  intro hmem
  rcases Encodes.mem hwrites mark hmem with hplain | rfl | rfl
  · rcases hmark with rfl | rfl | rfl <;> exact absurd hplain (by decide)
  · exact absurd hmark (by decide)
  · exact absurd hmark (by decide)

/-! ## Decoding what is written -/

theorem percentBytesFrom_plain {c : Char} (hc : c ≠ '%') (text : List Char) :
    Text.percentBytesFrom 0 (c :: text) =
      String.utf8EncodeChar c ++ Text.percentBytesFrom 0 text := by
  rw [Text.percentBytesFrom, if_neg hc]

theorem percentBytesFrom_escape {byte : UInt8} {high low : Char}
    (hhigh : Text.hexValue? high = some (byte.toNat / 16))
    (hlow : Text.hexValue? low = some (byte.toNat % 16)) (text : List Char) :
    Text.percentBytesFrom 0 ('%' :: high :: low :: text) =
      byte :: Text.percentBytesFrom 0 text := by
  have hbyte : Text.hexByte? (high :: low :: text) = some byte := by
    have hnumber : 16 * (byte.toNat / 16) + byte.toNat % 16 = byte.toNat := Nat.div_add_mod ..
    simp [Text.hexByte?, Text.hexNumber?, Text.hexNumberFrom?, hhigh, hlow, hnumber]
  rw [Text.percentBytesFrom, if_pos rfl, hbyte]
  rfl

theorem Encodes.formBytes_eq {bytes : List UInt8} {text : List Char}
    (hencodes : Encodes bytes text) : formBytes text = bytes := by
  have hplain : ∀ {c : Char}, isMark c = false → (if c = '+' then ' ' else c) = c :=
    fun hc => if_neg (ne_of_not_mark hc (by decide))
  unfold formBytes Text.percentBytes
  induction hencodes with
  | done => rfl
  | plain hc hrest ih =>
      rw [List.map_cons, hplain hc, percentBytesFrom_plain (ne_of_not_mark hc (by decide)), ih]
  | plus hrest ih =>
      rw [List.map_cons, if_pos rfl, Text.percentBytesFrom, ih]
      rfl
  | escape hhigh hlow hrest ih =>
      rw [List.map_cons, List.map_cons, List.map_cons, hplain (not_mark_of_hexValue? hhigh),
        hplain (not_mark_of_hexValue? hlow), if_neg (by decide),
        percentBytesFrom_escape hhigh hlow, ih]

theorem decode?_utf8 (value : String) :
    Text.decode? (value.toList.flatMap String.utf8EncodeChar) = some value := by
  have hbytes : ByteArray.mk (value.toList.flatMap String.utf8EncodeChar).toArray =
      value.toByteArray := by
    rw [← String.utf8Encode_toList, List.utf8Encode, ← List.data_toByteArray]
  rw [Text.decode?, hbytes, String.fromUTF8?, dif_pos value.isValidUTF8]
  rfl

theorem decode?_eq_some {bytes : List UInt8} {value : String} :
    Text.decode? bytes = some value ↔ bytes = value.toList.flatMap String.utf8EncodeChar := by
  constructor
  · intro hdecode
    unfold Text.decode? String.fromUTF8? at hdecode
    split at hdecode
    next hvalid =>
      cases hdecode
      have hbytes : (String.fromUTF8 (ByteArray.mk bytes.toArray) hvalid).toByteArray =
          ByteArray.mk bytes.toArray := rfl
      rw [← String.utf8Encode_toList, List.utf8Encode] at hbytes
      have hlists := congrArg (fun array => array.data.toList) hbytes
      simpa using hlists.symm
    next => cases hdecode
  · rintro rfl
    exact decode?_utf8 value

theorem Writes.decode?_eq {value : String} {text : List Char} (hwrites : Writes value text) :
    Text.decode? (formBytes text) = some value := by
  rw [Encodes.formBytes_eq hwrites, decode?_utf8]

theorem Writes.decodeLossy_eq {value : String} {text : List Char} (hwrites : Writes value text) :
    Text.decodeLossy (formBytes text) = value := by
  rw [Text.decodeLossy, hwrites.decode?_eq, Option.getD_some]

/-- Text without marks writes itself. -/
theorem encodes_self {text : List Char} (htext : ∀ c ∈ text, isMark c = false) :
    Encodes (text.flatMap String.utf8EncodeChar) text := by
  induction text with
  | nil => exact .done
  | cons c text ih =>
      rw [List.forall_mem_cons] at htext
      rw [List.flatMap_cons]
      exact .plain htext.1 (ih htext.2)

/-- A text writes at most one value. -/
theorem Writes.unique {value other : String} {text : List Char} (hwrites : Writes value text)
    (hother : Writes other text) : value = other := by
  have hdecode := hwrites.decode?_eq
  rw [hother.decode?_eq] at hdecode
  exact (Option.some.inj hdecode).symm

/-! ## Text that reads as one byte -/

/-- A digit of a value is written in one way in either case. -/
theorem digitChar_of_hexValue? {c : Char} {digit : Nat} (hdigit : Text.hexValue? c = some digit) :
    digit < 16 ∧ (c = digit.digitChar ∨ c = digit.digitChar.toUpper) := by
  have hcodes : (digit < 10 ∧ c.toNat = 48 + digit) ∨
      (10 ≤ digit ∧ digit < 16 ∧ (c.toNat = 87 + digit ∨ c.toNat = 55 + digit)) := by
    unfold Text.hexValue? at hdigit
    simp only [Char.le_def, UInt32.le_iff_toNat_le] at hdigit
    have hcode : c.toNat = c.val.toNat := rfl
    split_ifs at hdigit with hnumber hsmall hcapital
    all_goals
      rw [Option.some.injEq] at hdigit
      simp at *
      omega
  rw [← Char.ofNat_toNat c]
  rcases hcodes with ⟨hlt, hcode⟩ | ⟨hle, hlt, hcode | hcode⟩
  · rw [hcode]
    exact ⟨by omega, .inl (by interval_cases digit <;> rfl)⟩
  · rw [hcode]
    exact ⟨hlt, .inl (by interval_cases digit <;> rfl)⟩
  · rw [hcode]
    exact ⟨hlt, .inr (by interval_cases digit <;> rfl)⟩

theorem digits_of_hexByte? {text : List Char} {byte : UInt8}
    (hbyte : Text.hexByte? text = some byte) :
    ∃ high low rest, text = high :: low :: rest ∧
      Text.hexValue? high = some (byte.toNat / 16) ∧
      Text.hexValue? low = some (byte.toNat % 16) := by
  obtain ⟨n, hnumber, rfl⟩ := Option.map_eq_some_iff.mp hbyte
  unfold Text.hexNumber? at hnumber
  split at hnumber
  · cases hnumber
  next hlength =>
    match text with
    | [] => simp at hlength
    | [c] => simp at hlength
    | high :: low :: rest =>
        simp only [List.take, Text.hexNumberFrom?, bind, Option.bind_eq_some_iff] at hnumber
        obtain ⟨first, hfirst, second, hsecond, hn⟩ := hnumber
        have hfirstLt := (digitChar_of_hexValue? hfirst).1
        have hsecondLt := (digitChar_of_hexValue? hsecond).1
        cases hn
        have hvalue : (UInt8.ofNat (16 * (16 * 0 + first) + second)).toNat =
            16 * first + second := by
          rw [UInt8.toNat_ofNat']
          omega
        have hhigh : first = (16 * first + second) / 16 := by omega
        have hlow : second = (16 * first + second) % 16 := by omega
        rw [hvalue, ← hhigh, ← hlow]
        exact ⟨high, low, rest, rfl, hfirst, hsecond⟩

theorem percentBytesFrom_drop (skip : Nat) (text : List Char) :
    Text.percentBytesFrom skip text = Text.percentBytesFrom 0 (text.drop skip) := by
  induction text generalizing skip with
  | nil => simp [Text.percentBytesFrom]
  | cons c rest ih =>
      cases skip with
      | zero => rfl
      | succ skip => simpa [Text.percentBytesFrom] using ih skip

theorem percentBytesFrom_eq_nil {text : List Char} :
    Text.percentBytesFrom 0 text = [] ↔ text = [] := by
  cases text with
  | nil => simp [Text.percentBytesFrom]
  | cons c rest =>
      have hne := @String.utf8EncodeChar_ne_nil c
      unfold Text.percentBytesFrom
      split <;> simp [hne]

/-- One byte is written by one character or by one escape. -/
theorem percentBytesFrom_eq_singleton {text : List Char} {byte : UInt8}
    (hbytes : Text.percentBytesFrom 0 text = [byte]) :
    (∃ c, text = [c] ∧ String.utf8EncodeChar c = [byte]) ∨
      ∃ high low, text = ['%', high, low] ∧
        Text.hexValue? high = some (byte.toNat / 16) ∧
        Text.hexValue? low = some (byte.toNat % 16) := by
  cases text with
  | nil => simp [Text.percentBytesFrom] at hbytes
  | cons c rest =>
      unfold Text.percentBytesFrom at hbytes
      split at hbytes
      next found hescape =>
        rw [List.cons.injEq, percentBytesFrom_drop, percentBytesFrom_eq_nil] at hbytes
        obtain ⟨rfl, hdrop⟩ := hbytes
        split_ifs at hescape with hpercent
        obtain ⟨high, low, others, rfl, hhigh, hlow⟩ := digits_of_hexByte? hescape
        have hothers : others = [] := hdrop
        rw [hpercent, hothers]
        exact .inr ⟨high, low, rfl, hhigh, hlow⟩
      next =>
        rw [List.append_eq_singleton_iff, percentBytesFrom_eq_nil] at hbytes
        rcases hbytes with ⟨hempty, -⟩ | ⟨hchar, rfl⟩
        · exact (String.utf8EncodeChar_ne_nil hempty).elim
        · exact .inl ⟨c, rfl, hchar⟩

/-! ## Pairs -/

/-- The pair that a piece of a query is read as, if it is not empty and decodes. -/
def readPiece? (piece : List Char) : Option (String × String) :=
  if piece.isEmpty then none else decodePair? ((Text.cutAt? '=' piece).getD (piece, []))

theorem filterMap_rawPairs (text : List Char) :
    (rawPairs text).filterMap decodePair? = (Text.splitAt '&' text).filterMap readPiece? := by
  unfold rawPairs
  rw [List.filterMap_map, List.filterMap_filter]
  congr 1
  funext piece
  unfold readPiece?
  cases piece.isEmpty <;> rfl

variable {pairs : List (String × String)} {pair : String × String} {piece text : List Char}

theorem WritesPair.readPiece?_eq (hwrites : WritesPair pair piece) :
    readPiece? piece = some pair := by
  obtain ⟨key, value, hkey, hvalue, rfl⟩ := hwrites
  have hcut : Text.cutAt? '=' (key ++ '=' :: value) = some (key, value) :=
    Text.cutAt?_eq_some.mpr ⟨rfl, hkey.ne_separator (.inr (.inl rfl))⟩
  simp [readPiece?, hcut, decodePair?, hkey.decode?_eq, hvalue.decode?_eq]

theorem WritesPair.ne_separator (hwrites : WritesPair pair piece) {mark : Char}
    (hmark : mark = '&' ∨ mark = ',') : mark ∉ piece := by
  obtain ⟨key, value, hkey, hvalue, rfl⟩ := hwrites
  have hseparator : mark = '&' ∨ mark = '=' ∨ mark = ',' := by tauto
  have hassign : mark ≠ '=' := by rcases hmark with rfl | rfl <;> decide
  simp [hkey.ne_separator hseparator, hvalue.ne_separator hseparator, hassign]

theorem filterMap_readPiece? {pieces : List (List Char)}
    (hwrites : List.Forall₂ WritesPair pairs pieces) :
    pieces.filterMap readPiece? = pairs := by
  induction hwrites with
  | nil => rfl
  | cons hpair hrest ih => rw [List.filterMap_cons_some hpair.readPiece?_eq, ih]

theorem WritesQuery.splitAt_eq (hwrites : WritesQuery pairs text) (hne : pairs ≠ []) :
    List.Forall₂ WritesPair pairs (Text.splitAt '&' text) := by
  obtain ⟨pieces, hpieces, rfl⟩ := hwrites
  have hpiecesNe : pieces ≠ [] := by
    rintro rfl
    cases hpieces
    contradiction
  have hapart : ∀ piece ∈ pieces, '&' ∉ piece := by
    intro piece hpiece
    obtain ⟨pair, -, hpair⟩ := Text.exists_of_forall₂ hpieces.flip hpiece
    exact WritesPair.ne_separator hpair (.inl rfl)
  rwa [Text.splitAt_intercalate hpiecesNe hapart]

theorem WritesQuery.comma_not_mem (hwrites : WritesQuery pairs text) (hne : pairs ≠ []) :
    ',' ∉ text := by
  intro hmem
  obtain ⟨piece, hpiece, hcomma⟩ :=
    (@Text.exists_piece_iff _ (· == '&') text ',').mpr ⟨hmem, rfl⟩
  obtain ⟨pair, -, hpair⟩ := Text.exists_of_forall₂ (hwrites.splitAt_eq hne).flip hpiece
  exact WritesPair.ne_separator hpair (.inr rfl) hcomma

theorem WritesQuery.assign_mem (hwrites : WritesQuery pairs text) (hne : pairs ≠ []) :
    '=' ∈ text := by
  obtain ⟨pair, hpair⟩ := List.exists_mem_of_ne_nil pairs hne
  obtain ⟨piece, hpiece, hwritten⟩ := Text.exists_of_forall₂ (hwrites.splitAt_eq hne) hpair
  obtain ⟨key, value, -, -, rfl⟩ := hwritten
  exact ((@Text.exists_piece_iff _ (· == '&') text '=').mp ⟨_, hpiece, by simp⟩).1

theorem WritesQuery.filterMap_rawPairs (hwrites : WritesQuery pairs text) :
    (rawPairs text).filterMap decodePair? = pairs := by
  rw [Query.filterMap_rawPairs]
  by_cases hne : pairs = []
  · subst hne
    obtain ⟨pieces, ⟨⟩, rfl⟩ := hwrites
    rfl
  · exact filterMap_readPiece? (hwrites.splitAt_eq hne)

theorem WritesQuery.parse_eq {query : String} (hwrites : WritesQuery pairs query.toList) :
    parse query = Dictionary.ofPairs pairs := by
  rw [parse, hwrites.filterMap_rawPairs]

/-- The pairs of a written query keep their order, repeated keys included. -/
theorem WritesQuery.pairsLossy_eq {query : String} (hwrites : WritesQuery pairs query.toList) :
    pairsLossy query = pairs := by
  unfold pairsLossy rawPairs
  by_cases hne : pairs = []
  · subst hne
    obtain ⟨pieces, ⟨⟩, hquery⟩ := hwrites
    rw [hquery]
    rfl
  · have hpieces := hwrites.splitAt_eq hne
    clear hwrites hne
    generalize Text.splitAt '&' query.toList = pieces at hpieces ⊢
    induction hpieces with
    | nil => rfl
    | @cons pair piece pairs pieces hpair hrest ih =>
        obtain ⟨key, value, hkey, hvalue, rfl⟩ := hpair
        have hcut : Text.cutAt? '=' (key ++ '=' :: value) = some (key, value) :=
          Text.cutAt?_eq_some.mpr ⟨rfl, hkey.ne_separator (.inr (.inl rfl))⟩
        rw [List.filter_cons_of_pos (by simp), List.map_cons, List.map_cons, ih, hcut,
          Option.getD_some]
        dsimp only
        rw [hkey.decodeLossy_eq, hvalue.decodeLossy_eq]

/-! ## Fields of a query that is not written as a whole -/

/-- A query holds a field if some piece writes it and no piece behind it is read as
another value of its key.  The other pieces may be anything. -/
def Holds (query : String) (pair : String × String) : Prop :=
  ∃ front piece back, Text.splitAt '&' query.toList = front ++ piece :: back ∧
    WritesPair pair piece ∧ ∀ later ∈ back, ∀ other, readPiece? later = some other →
      other.1 ≠ pair.1

theorem Holds.get?_parse {query : String} (hholds : Holds query pair) :
    (parse query).get? pair.1 = some pair.2 := by
  obtain ⟨front, piece, back, hsplit, hpiece, hback⟩ := hholds
  have hnone : (back.filterMap readPiece?).reverse.find? (fun other => other.1 == pair.1) =
      none := by
    rw [List.find?_eq_none]
    intro other hother
    rw [List.mem_reverse, List.mem_filterMap] at hother
    obtain ⟨later, hlater, hread⟩ := hother
    simpa using hback later hlater other hread
  rw [parse, filterMap_rawPairs, hsplit, Dictionary.get?_ofPairs, List.filterMap_append,
    List.filterMap_cons_some hpiece.readPiece?_eq, List.reverse_append, List.reverse_cons,
    List.append_assoc, List.find?_append, hnone]
  simp

theorem exists_piece_of_get?_parse {query key value : String}
    (hget : (parse query).get? key = some value) :
    ∃ piece ∈ Text.splitAt '&' query.toList, readPiece? piece = some (key, value) := by
  rw [parse, filterMap_rawPairs, Dictionary.get?_ofPairs, Option.map_eq_some_iff] at hget
  obtain ⟨⟨other, found⟩, hfind, rfl⟩ := hget
  have hmem := List.mem_of_find?_eq_some hfind
  have hkey : other = key := by simpa using List.find?_some hfind
  rw [List.mem_reverse, List.mem_filterMap] at hmem
  rwa [hkey] at hmem

theorem get?_parse_ne_none {query key value : String}
    (hpiece : piece ∈ Text.splitAt '&' query.toList)
    (hread : readPiece? piece = some (key, value)) : (parse query).get? key ≠ none := by
  rw [parse, filterMap_rawPairs, Dictionary.get?_ofPairs, Ne, Option.map_eq_none_iff,
    List.find?_eq_none]
  intro hnone
  have hmem : (key, value) ∈ (Text.splitAt '&' query.toList).filterMap readPiece? :=
    List.mem_filterMap.mpr ⟨piece, hpiece, hread⟩
  exact hnone (key, value) (List.mem_reverse.mpr hmem) (beq_self_eq_true key)

theorem WritesQuery.holds {query : String} (hwrites : WritesQuery pairs query.toList)
    (hnodup : (pairs.map Prod.fst).Nodup) (hpair : pair ∈ pairs) : Holds query pair := by
  have hpieces := (hwrites.splitAt_eq (List.ne_nil_of_mem hpair)).flip
  obtain ⟨front, back, rfl⟩ := List.append_of_mem hpair
  have hdrop := List.forall₂_drop_append _ front (pair :: back) hpieces
  obtain ⟨piece, others, hpiece, hothers, hsplit⟩ := List.forall₂_cons_right_iff.mp hdrop
  refine ⟨(Text.splitAt '&' query.toList).take front.length, piece, others, ?_, hpiece, ?_⟩
  · rw [← hsplit, List.take_append_drop]
  · intro later hlater other hread
    obtain ⟨written, hwritten, hpairLater⟩ := Text.exists_of_forall₂ hothers hlater
    have hother : other = written := by
      rw [WritesPair.readPiece?_eq hpairLater, Option.some.injEq] at hread
      exact hread.symm
    rw [List.map_append, List.map_cons, List.nodup_append, List.nodup_cons] at hnodup
    intro hkey
    apply hnodup.2.1.1
    rw [← hkey, hother]
    exact List.mem_map_of_mem hwritten

/-! ## Writing any text -/

theorem hexValue?_digitChar {digit : Nat} (hdigit : digit < 16) :
    Text.hexValue? digit.digitChar.toUpper = some digit := by
  revert digit
  decide

theorem percentEncodeByte_eq (byte : UInt8) :
    Text.percentEncodeByte byte =
      ['%', (byte.toNat / 16).digitChar.toUpper, (byte.toNat % 16).digitChar.toUpper] := by
  have hbyte := byte.toNat_lt
  have hdigits : Nat.toDigits 16 (256 + byte.toNat) =
      [Nat.digitChar 1, (byte.toNat / 16).digitChar, (byte.toNat % 16).digitChar] := by
    have hhigh : (256 + byte.toNat) / 16 = 16 + byte.toNat / 16 := by omega
    have hlow : (256 + byte.toNat) % 16 = byte.toNat % 16 := by omega
    have hfirst : (16 + byte.toNat / 16) / 16 = 1 := by omega
    have hsecond : (16 + byte.toNat / 16) % 16 = byte.toNat / 16 := by omega
    rw [Nat.toDigits_of_base_le (by decide) (by omega), hhigh, hlow,
      Nat.toDigits_of_base_le (by decide) (by omega), hfirst, hsecond,
      Nat.toDigits_of_lt_base (by decide)]
    rfl
  rw [Text.percentEncodeByte, hdigits]
  rfl

theorem Encodes.append {bytes bytes' : List UInt8} {text text' : List Char}
    (hencodes : Encodes bytes text) (hencodes' : Encodes bytes' text') :
    Encodes (bytes ++ bytes') (text ++ text') := by
  induction hencodes with
  | done => exact hencodes'
  | plain hc hrest ih =>
      rw [List.append_assoc]
      exact .plain hc ih
  | plus hrest ih => exact .plus ih
  | escape hhigh hlow hrest ih => exact .escape hhigh hlow ih

theorem encodes_escapes (bytes : List UInt8) :
    Encodes bytes (bytes.flatMap Text.percentEncodeByte) := by
  induction bytes with
  | nil => exact .done
  | cons byte bytes ih =>
      have hbyte := byte.toNat_lt
      rw [List.flatMap_cons, percentEncodeByte_eq]
      exact .escape (hexValue?_digitChar (by omega)) (hexValue?_digitChar (by omega)) ih

/-- The text that writes a value with as few escapes as possible. -/
def write (value : String) : List Char :=
  value.toList.flatMap fun c => if isMark c then Text.percentEncode c else [c]

def writePair (pair : String × String) : List Char :=
  write pair.1 ++ '=' :: write pair.2

def writeQuery (pairs : List (String × String)) : List Char :=
  ['&'].intercalate (pairs.map writePair)

theorem writes_write (value : String) : Writes value (write value) := by
  unfold Writes write
  induction value.toList with
  | nil => exact .done
  | cons c text ih =>
      rw [List.flatMap_cons, List.flatMap_cons]
      refine Encodes.append ?_ ih
      cases hc : isMark c with
      | true => exact encodes_escapes _
      | false =>
          have hplain := Encodes.plain hc .done
          rwa [List.append_nil] at hplain

theorem writesQuery_writeQuery (pairs : List (String × String)) :
    WritesQuery pairs (writeQuery pairs) := by
  refine ⟨pairs.map writePair, ?_, rfl⟩
  rw [List.forall₂_map_right_iff, List.forall₂_same]
  intro pair hpair
  exact ⟨write pair.1, write pair.2, writes_write _, writes_write _, rfl⟩

end StreamLinks.Query
