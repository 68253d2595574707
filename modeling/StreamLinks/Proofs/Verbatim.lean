import Mathlib.Tactic.Ring
import StreamLinks.Proofs.Query

/-!
# Text that is read as it stands

Form-encoded text stands for itself where it has neither a plus sign nor an escape, and
nowhere else.  What decoding changes shows in the number of graphic ASCII characters:
an escape has three of them and stands for one byte, a plus sign stands for a blank, and
bytes that are no text are replaced by characters beyond ASCII.
-/

namespace StreamLinks.Query

/-- A percent sign with two hexadecimal digits behind it stands in the text. -/
def HasEscape (text : List Char) : Prop :=
  ∃ front high low back, text = front ++ '%' :: high :: low :: back ∧
    (Text.hexValue? high).isSome ∧ (Text.hexValue? low).isSome

/-- The text has no character that decoding reads as something else. -/
structure IsVerbatim (text : List Char) : Prop where
  plus_not_mem : '+' ∉ text
  no_escape : ¬ HasEscape text

/-- The text is one value of a query as it stands. -/
structure IsPlainValue (text : List Char) : Prop where
  whole : '&' ∉ text
  verbatim : IsVerbatim text

variable {text : List Char} {bytes : List UInt8}

theorem not_hasEscape_of_not_mem (hpercent : '%' ∉ text) : ¬ HasEscape text := by
  rintro ⟨front, high, low, back, rfl, -⟩
  simp at hpercent

/-- An escape at the front of a text writes a byte. -/
theorem isSome_hexByte? {high low : Char} (hhigh : (Text.hexValue? high).isSome)
    (hlow : (Text.hexValue? low).isSome) (back : List Char) :
    (Text.hexByte? (high :: low :: back)).isSome := by
  obtain ⟨first, hfirst⟩ := Option.isSome_iff_exists.mp hhigh
  obtain ⟨second, hsecond⟩ := Option.isSome_iff_exists.mp hlow
  simp [Text.hexByte?, Text.hexNumber?, Text.hexNumberFrom?, hfirst, hsecond]

theorem HasEscape.cons (hescape : HasEscape text) (c : Char) : HasEscape (c :: text) := by
  obtain ⟨front, high, low, back, rfl, hhigh, hlow⟩ := hescape
  exact ⟨c :: front, high, low, back, rfl, hhigh, hlow⟩

theorem HasEscape.of_cons {c : Char} (hescape : HasEscape (c :: text))
    (hfront : (if c = '%' then Text.hexByte? text else none) = none) : HasEscape text := by
  obtain ⟨front, high, low, back, htext, hhigh, hlow⟩ := hescape
  cases front with
  | nil =>
      obtain ⟨rfl, rfl⟩ := List.cons.inj htext
      have hbyte := isSome_hexByte? hhigh hlow back
      rw [if_pos rfl] at hfront
      rw [hfront] at hbyte
      cases hbyte
  | cons d front =>
      obtain ⟨-, rfl⟩ := List.cons.inj htext
      exact ⟨front, high, low, back, rfl, hhigh, hlow⟩

/-! ## Decoding what stands for itself -/

/-- The bytes of a text come from an escape at its front, or from its first character. -/
theorem percentBytesFrom_cases (c : Char) (text : List Char) :
    (∃ byte high low rest, c = '%' ∧ text = high :: low :: rest ∧
      Text.percentBytesFrom 0 (c :: text) = byte :: Text.percentBytesFrom 0 rest ∧
      (Text.hexValue? high).isSome ∧ (Text.hexValue? low).isSome) ∨
    ((if c = '%' then Text.hexByte? text else none) = none ∧
      Text.percentBytesFrom 0 (c :: text) =
        String.utf8EncodeChar c ++ Text.percentBytesFrom 0 text) := by
  cases hescape : if c = '%' then Text.hexByte? text else none with
  | none =>
      refine .inr ⟨rfl, ?_⟩
      rw [Text.percentBytesFrom, hescape]
  | some byte =>
      left
      split_ifs at hescape with hpercent
      obtain ⟨high, low, rest, rfl, hhigh, hlow⟩ := digits_of_hexByte? hescape
      refine ⟨byte, high, low, rest, hpercent, rfl, ?_, by simp [hhigh], by simp [hlow]⟩
      rw [hpercent, percentBytesFrom_escape hhigh hlow]

theorem percentBytesFrom_of_no_escape (hescape : ¬ HasEscape text) :
    Text.percentBytesFrom 0 text = text.flatMap String.utf8EncodeChar := by
  induction text with
  | nil => rfl
  | cons c text ih =>
      rcases percentBytesFrom_cases c text with ⟨byte, high, low, rest, rfl, rfl, -, hdigits⟩ | hfront
      · exact (hescape ⟨[], high, low, rest, rfl, hdigits⟩).elim
      · rw [hfront.2, List.flatMap_cons, ih fun hrest => hescape (hrest.cons c)]

theorem spaced_of_no_plus (hplus : '+' ∉ text) :
    (text.map fun c => if c = '+' then ' ' else c) = text := by
  have hsame : ∀ c ∈ text, (if c = '+' then ' ' else c) = id c := by
    intro c hc
    have hne : c ≠ '+' := by
      rintro rfl
      exact hplus hc
    rw [if_neg hne, id]
  rw [List.map_congr_left hsame, List.map_id]

theorem IsVerbatim.formBytes_eq (hverbatim : IsVerbatim text) :
    formBytes text = text.flatMap String.utf8EncodeChar := by
  unfold formBytes Text.percentBytes
  rw [spaced_of_no_plus hverbatim.plus_not_mem,
    percentBytesFrom_of_no_escape hverbatim.no_escape]

theorem IsVerbatim.decode?_eq (hverbatim : IsVerbatim text) :
    Text.decode? (formBytes text) = some (String.ofList text) := by
  rw [hverbatim.formBytes_eq]
  simpa using decode?_utf8 (String.ofList text)

theorem IsVerbatim.decodeLossy_eq (hverbatim : IsVerbatim text) :
    Text.decodeLossy (formBytes text) = String.ofList text := by
  rw [Text.decodeLossy, hverbatim.decode?_eq, Option.getD_some]

/-! ## Graphic characters -/

/-- A character of ASCII that is neither a blank nor a control. -/
def isGraphic (c : Char) : Bool :=
  0x21 ≤ c.toNat && c.toNat ≤ 0x7E

def isGraphicByte (byte : UInt8) : Bool :=
  0x21 ≤ byte.toNat && byte.toNat ≤ 0x7E

/-- How many graphic characters a text has. -/
def graphics (text : List Char) : Nat :=
  text.countP isGraphic

def graphicBytes (bytes : List UInt8) : Nat :=
  bytes.countP isGraphicByte

theorem graphics_append (text text' : List Char) :
    graphics (text ++ text') = graphics text + graphics text' :=
  List.countP_append

theorem graphics_cons (c : Char) (text : List Char) :
    graphics (c :: text) = graphics [c] + graphics text :=
  graphics_append [c] text

theorem graphicBytes_append (bytes bytes' : List UInt8) :
    graphicBytes (bytes ++ bytes') = graphicBytes bytes + graphicBytes bytes' :=
  List.countP_append

theorem graphicBytes_singleton_le (byte : UInt8) : graphicBytes [byte] ≤ 1 :=
  List.countP_le_length

/-- A character beyond ASCII is made of bytes beyond ASCII. -/
theorem graphicBytes_utf8EncodeChar (c : Char) :
    graphicBytes (String.utf8EncodeChar c) = graphics [c] := by
  have hcode : c.val.toNat = c.toNat := rfl
  unfold String.utf8EncodeChar
  simp only [hcode]
  split_ifs
  all_goals
    simp only [graphicBytes, graphics, List.countP_cons, List.countP_nil, isGraphicByte,
      isGraphic, UInt8.toNat_ofNat', Bool.and_eq_true, decide_eq_true_eq]
    grind

theorem graphicBytes_utf8 (text : List Char) :
    graphicBytes (text.flatMap String.utf8EncodeChar) = graphics text := by
  induction text with
  | nil => rfl
  | cons c text ih =>
      rw [List.flatMap_cons, graphicBytes_append, graphicBytes_utf8EncodeChar, ih,
        ← graphics_cons]

theorem graphics_of_decode? {value : String} (hdecode : Text.decode? bytes = some value) :
    graphics value.toList = graphicBytes bytes := by
  rw [decode?_eq_some.mp hdecode, graphicBytes_utf8]

/-! ## What decoding loses -/

theorem graphics_escape {high low : Char} (hhigh : (Text.hexValue? high).isSome)
    (hlow : (Text.hexValue? low).isSome) (rest : List Char) :
    graphics ('%' :: high :: low :: rest) = 3 + graphics rest := by
  have hgraphic : ∀ {c : Char}, (Text.hexValue? c).isSome → isGraphic c = true := by
    intro c hc
    obtain ⟨digit, hdigit⟩ := Option.isSome_iff_exists.mp hc
    obtain ⟨hlt, rfl | rfl⟩ := digitChar_of_hexValue? hdigit
    · interval_cases digit <;> rfl
    · interval_cases digit <;> rfl
  have hpercent : isGraphic '%' = true := by decide
  simp only [graphics, List.countP_cons, hpercent, hgraphic hhigh, hgraphic hlow, if_true]
  omega

/-- Escapes are longer than the bytes that they write. -/
theorem graphicBytes_percentBytes (text : List Char) :
    graphicBytes (Text.percentBytesFrom 0 text) ≤ graphics text ∧
      (HasEscape text → graphicBytes (Text.percentBytesFrom 0 text) < graphics text) := by
  induction hlength : text.length using Nat.strong_induction_on generalizing text with
  | _ length ih =>
    cases text with
    | nil =>
        refine ⟨Nat.le_refl 0, ?_⟩
        rintro ⟨front, high, low, back, htext, -⟩
        simp at htext
    | cons c text =>
        subst hlength
        rcases percentBytesFrom_cases c text with
          ⟨byte, high, low, rest, rfl, rfl, hbytes, hhigh, hlow⟩ | ⟨hfront, hbytes⟩
        · have hshorter : rest.length < ('%' :: high :: low :: rest).length := by
            simp only [List.length_cons]
            omega
          have hrest := (ih rest.length hshorter rest rfl).1
          have hbyte := graphicBytes_singleton_le byte
          have hsplit := graphicBytes_append [byte] (Text.percentBytesFrom 0 rest)
          rw [List.singleton_append] at hsplit
          rw [hbytes, graphics_escape hhigh hlow, hsplit]
          constructor
          · omega
          · intro _
            omega
        · obtain ⟨hle, hlt⟩ := ih text.length (by simp) text rfl
          rw [hbytes, graphicBytes_append, graphicBytes_utf8EncodeChar, graphics_cons c text]
          exact ⟨Nat.add_le_add_left hle _,
            fun hescape => Nat.add_lt_add_left (hlt (hescape.of_cons hfront)) _⟩

/-- A plus sign is read as a blank, which is not graphic. -/
theorem graphics_spaced (text : List Char) :
    graphics (text.map fun c => if c = '+' then ' ' else c) + text.count '+' =
      graphics text := by
  induction text with
  | nil => rfl
  | cons c text ih =>
      rw [List.map_cons, graphics_cons, graphics_cons c, List.count_cons]
      by_cases hplus : c = '+'
      · have hblank : graphics [' '] = 0 := by decide
        have hgraphic : graphics ['+'] = 1 := by decide
        rw [hplus, if_pos rfl, hblank, hgraphic, beq_self_eq_true, if_pos rfl]
        omega
      · rw [if_neg hplus, beq_eq_false_iff_ne.mpr hplus, if_neg Bool.false_ne_true]
        omega

theorem graphicBytes_formBytes_le (text : List Char) :
    graphicBytes (formBytes text) ≤ graphics text := by
  have hbytes := (graphicBytes_percentBytes (text.map fun c => if c = '+' then ' ' else c)).1
  have hspaced := graphics_spaced text
  unfold formBytes Text.percentBytes
  omega

/-- Only text that is read as it stands keeps all its graphic characters. -/
theorem isVerbatim_of_graphicBytes (hgraphics : graphics text ≤ graphicBytes (formBytes text)) :
    IsVerbatim text := by
  have hpercent := graphicBytes_percentBytes (text.map fun c => if c = '+' then ' ' else c)
  have hspaced := graphics_spaced text
  unfold formBytes Text.percentBytes at hgraphics
  have hplus : '+' ∉ text := by
    intro hmem
    have hcount := List.count_pos_iff.mpr hmem
    have hle := hpercent.1
    omega
  refine ⟨hplus, ?_⟩
  intro hescape
  rw [spaced_of_no_plus hplus] at hpercent hgraphics
  exact Nat.not_lt.mpr hgraphics (hpercent.2 hescape)

/-! ## Ill-formed bytes -/

/-- The first byte of a character gives its highest bits. -/
theorem le_of_continueCode {code found : Nat} {ranges : List (UInt8 × UInt8)}
    (hfound : (Text.continueCode code ranges bytes).1 = some found) :
    code * 64 ^ ranges.length ≤ found := by
  induction ranges generalizing code bytes with
  | nil =>
      cases hfound
      simp
  | cons range ranges ih =>
      obtain ⟨low, high⟩ := range
      cases bytes with
      | nil => cases hfound
      | cons byte rest =>
          unfold Text.continueCode at hfound
          split at hfound
          · have hrest := ih hfound
            calc code * 64 ^ (ranges.length + 1)
                = 64 * code * 64 ^ ranges.length := by ring
              _ ≤ (64 * code + byte.toNat % 64) * 64 ^ ranges.length :=
                Nat.mul_le_mul_right _ (Nat.le_add_right _ _)
              _ ≤ found := hrest
          · cases hfound

/-- Where the first byte gives no bits at all, the second one gives some. -/
theorem le_of_continueCode_zero {low high : UInt8} {ranges : List (UInt8 × UInt8)} {found : Nat}
    (hlow : 0x90 ≤ low.toNat) (hhigh : high.toNat ≤ 0xBF)
    (hfound : (Text.continueCode 0 ((low, high) :: ranges) bytes).1 = some found) :
    16 * 64 ^ ranges.length ≤ found := by
  cases bytes with
  | nil => cases hfound
  | cons byte rest =>
      unfold Text.continueCode at hfound
      split at hfound
      next hrange =>
        obtain ⟨hlowByte, hbyteHigh⟩ := hrange
        rw [UInt8.le_iff_toNat_le] at hlowByte hbyteHigh
        have hbits : 16 ≤ 64 * 0 + byte.toNat % 64 := by omega
        exact Nat.le_trans (Nat.mul_le_mul_right _ hbits) (le_of_continueCode hfound)
      next => cases hfound

/-- The first byte gives bits enough for a character beyond ASCII, or the second one has to. -/
def givesBits (code : Nat) (ranges : List (UInt8 × UInt8)) : Bool :=
  0x80 ≤ code * 64 ^ ranges.length ||
    match code, ranges with
    | 0, (low, high) :: _ :: _ => 0x90 ≤ low.toNat && high.toNat ≤ 0xBF
    | _, _ => false

theorem givesBits_of_continuation? : ∀ n < 256, 0x80 ≤ n →
    ((Text.continuation? (UInt8.ofNat n)).all fun start => givesBits start.1 start.2) = true := by
  decide +kernel

/-- A byte beyond ASCII starts no character of ASCII. -/
theorem le_of_continuation? {byte : UInt8} {code found : Nat} {ranges : List (UInt8 × UInt8)}
    (hstarts : Text.continuation? byte = some (code, ranges)) (hbyte : 0x80 ≤ byte.toNat)
    (hfound : (Text.continueCode code ranges bytes).1 = some found) : 0x80 ≤ found := by
  have hbits := givesBits_of_continuation? byte.toNat byte.toNat_lt hbyte
  rw [UInt8.ofNat_toNat, hstarts, Option.all_some] at hbits
  dsimp only [givesBits] at hbits
  rw [Bool.or_eq_true, decide_eq_true_iff] at hbits
  rcases hbits with hfirst | hsecond
  · exact Nat.le_trans hfirst (le_of_continueCode hfound)
  · split at hsecond
    next low high next ranges =>
      rw [Bool.and_eq_true, decide_eq_true_iff, decide_eq_true_iff] at hsecond
      have hbits := le_of_continueCode_zero hsecond.1 hsecond.2 hfound
      have hpower : 64 ^ 1 ≤ 64 ^ (next :: ranges).length :=
        Nat.pow_le_pow_right (by decide) (by simp)
      omega
    next => cases hsecond

theorem toNat_ofNat_of_valid {code : Nat} (hvalid : code.isValidChar) :
    (Char.ofNat code).toNat = code := by
  rw [Char.ofNat, dif_pos hvalid]
  rfl

theorem isGraphic_ofNat_of_le {code : Nat} (hcode : 0x80 ≤ code) :
    isGraphic (Char.ofNat code) = false := by
  by_cases hvalid : code.isValidChar
  · unfold isGraphic
    rw [toNat_ofNat_of_valid hvalid, Bool.and_eq_false_iff, decide_eq_false_iff_not,
      decide_eq_false_iff_not]
    omega
  · rw [Char.ofNat, dif_neg hvalid]
    rfl

/-- A graphic character comes from a graphic byte. -/
theorem graphics_of_continueCode {byte : UInt8} {code found : Nat}
    {ranges : List (UInt8 × UInt8)} (hstarts : Text.continuation? byte = some (code, ranges))
    (hfound : (Text.continueCode code ranges bytes).1 = some found) :
    graphics [Char.ofNat found] ≤ graphicBytes [byte] := by
  by_cases hbyte : byte.toNat < 0x80
  · have hascii : byte < 0x80 := hbyte
    rw [Text.continuation?, if_pos hascii] at hstarts
    cases hstarts
    cases hfound
    have htoNat : (Char.ofNat byte.toNat).toNat = byte.toNat :=
      toNat_ofNat_of_valid (.inl (by omega))
    simp [graphics, graphicBytes, isGraphic, isGraphicByte, htoNat]
  · have hcode := le_of_continuation? hstarts (Nat.not_lt.mp hbyte) hfound
    simp [graphics, isGraphic_ofNat_of_le hcode]

theorem graphics_replaceIllFormed (skip : Nat) (bytes : List UInt8) :
    graphics (Text.replaceIllFormed skip bytes) ≤ graphicBytes (bytes.drop skip) := by
  induction bytes generalizing skip with
  | nil => simp [Text.replaceIllFormed, graphics]
  | cons byte rest ih =>
      cases skip with
      | succ skip => exact ih skip
      | zero =>
          have hreplaced : graphics ['\uFFFD'] = 0 := by decide
          have hbyte := graphicBytes_append [byte] rest
          rw [List.singleton_append] at hbyte
          rw [List.drop_zero, hbyte, Text.replaceIllFormed]
          have hdrop : ∀ length, graphics (Text.replaceIllFormed length rest) ≤
              graphicBytes rest :=
            fun length => Nat.le_trans (ih length) (List.drop_sublist length rest).countP_le
          cases hstarts : Text.continuation? byte with
          | none =>
              rw [graphics_cons, hreplaced]
              have hrest := hdrop 0
              omega
          | some start =>
              obtain ⟨code, ranges⟩ := start
              dsimp only
              cases hcode : Text.continueCode code ranges rest with
              | mk found length =>
                  have hrest := hdrop length
                  cases found with
                  | none =>
                      rw [graphics_cons, hreplaced]
                      omega
                  | some found =>
                      have hfound : (Text.continueCode code ranges rest).1 = some found := by
                        rw [hcode]
                      have hchar := graphics_of_continueCode hstarts hfound
                      rw [graphics_cons]
                      omega

/-- Bytes never become more graphic characters than there are graphic bytes. -/
theorem graphics_decodeLossy_le (bytes : List UInt8) :
    graphics (Text.decodeLossy bytes).toList ≤ graphicBytes bytes := by
  unfold Text.decodeLossy
  cases hdecode : Text.decode? bytes with
  | some value => exact Nat.le_of_eq (graphics_of_decode? hdecode)
  | none =>
      rw [Option.getD_none, String.toList_ofList]
      exact graphics_replaceIllFormed 0 bytes

/-! ## Pieces of queries -/

theorem graphics_filter_ne {separator : Char} (hgraphic : isGraphic separator = true)
    (text : List Char) :
    graphics (text.filter fun c => !(c == separator)) + text.count separator =
      graphics text := by
  induction text with
  | nil => rfl
  | cons c text ih =>
      rw [graphics_cons c text, List.count_cons, List.filter_cons]
      by_cases hc : c = separator
      · have hone : graphics [separator] = 1 := by simp [graphics, hgraphic]
        rw [hc, hone]
        simp only [beq_self_eq_true, Bool.not_true, Bool.false_eq_true, if_false, if_true]
        omega
      · rw [beq_eq_false_iff_ne.mpr hc, Bool.not_false, if_pos rfl, if_neg Bool.false_ne_true,
          graphics_cons c (List.filter _ _)]
        omega

/-- A piece has fewer graphic characters than a text that is divided. -/
theorem graphics_of_mem_splitAt {separator : Char} {piece : List Char}
    (hgraphic : isGraphic separator = true) (hpiece : piece ∈ Text.splitAt separator text) :
    graphics piece + text.count separator ≤ graphics text := by
  have hsublist := List.sublist_flatten_of_mem hpiece
  rw [Text.splitAt, Text.flatten_splitWhere] at hsublist
  rw [← graphics_filter_ne hgraphic text]
  exact Nat.add_le_add_right hsublist.countP_le _

theorem readPiece?_of_key {key : List Char} {name : String} (hassign : '=' ∉ key)
    (hname : Text.decode? (formBytes key) = some name) (raw : List Char) :
    readPiece? (key ++ '=' :: raw) =
      (Text.decode? (formBytes raw)).map fun value => (name, value) := by
  have hne : (key ++ '=' :: raw).isEmpty = false := by simp
  have hcut : Text.cutAt? '=' (key ++ '=' :: raw) = some (key, raw) :=
    Text.cutAt?_eq_some.mpr ⟨rfl, hassign⟩
  rw [readPiece?, hne, hcut]
  cases hvalue : Text.decode? (formBytes raw) <;> simp [decodePair?, hname, hvalue]

/-- A piece has no fewer graphic characters than the value that it is read as. -/
theorem graphics_of_readPiece? {piece : List Char} {name value : String}
    (hread : readPiece? piece = some (name, value)) : graphics value.toList ≤ graphics piece := by
  unfold readPiece? at hread
  split at hread
  · cases hread
  · obtain ⟨found, -, hpair⟩ := Option.bind_eq_some_iff.mp hread
    obtain ⟨text, htext, hpair⟩ := Option.bind_eq_some_iff.mp hpair
    cases hpair
    have hraw : graphics ((Text.cutAt? '=' piece).getD (piece, [])).2 ≤ graphics piece := by
      cases hcut : Text.cutAt? '=' piece with
      | none => exact Nat.zero_le _
      | some parts =>
          obtain ⟨before, after⟩ := parts
          rw [(Text.cutAt?_eq_some.mp hcut).1, graphics_append, graphics_cons]
          exact Nat.le_trans (Nat.le_add_left _ _) (Nat.le_add_left _ _)
    rw [graphics_of_decode? htext]
    exact Nat.le_trans (graphicBytes_formBytes_le _) hraw

end StreamLinks.Query
