import StreamLinks.Cipher.Lexer
import StreamLinks.Proofs.Outcome
import StreamLinks.Proofs.Text.Integer
import StreamLinks.Proofs.Text.Letters
import StreamLinks.Proofs.Text.Runs

/-!
# What the tokens of a text are

A token is taken as far as it goes: a word or a number ends where no word
character follows, a text at its quote.  This is stated as a relation between a
text and its tokens that always has the characters after a token at hand, so
that no decomposition can cut a word in two.  The walk of `tokenize` is then
shown to compute this relation, and what is proved about tokens is proved by
induction on the relation and not on the walk.
-/

namespace StreamLinks.Cipher

/-- The text starts with the token, and goes on with `rest`. -/
inductive LexesToken : (text : List Char) → Token → (rest : List Char) → Prop
  | word {c : Char} {tail rest : List Char} (hstart : isWordStart c = true)
      (hrun : Text.IsRun isWordPart (c :: tail) rest) :
      LexesToken (c :: tail ++ rest) (.word (String.ofList (c :: tail))) rest
  | number {c : Char} {tail rest : List Char} {value : Int64}
      (hdigits : ∀ d ∈ c :: tail, d.isDigit = true)
      (hrun : Text.IsRun isWordPart (c :: tail) rest)
      (hvalue : Text.readInt64? (c :: tail) = some value) :
      LexesToken (c :: tail ++ rest) (.number value) rest
  | text {quote : Char} {content rest : List Char} (hquote : quote = '"' ∨ quote = '\'')
      (hcontent : ∀ d ∈ content, d ≠ quote ∧ d ≠ '\\') :
      LexesToken (quote :: (content ++ quote :: rest)) (.text (String.ofList content)) rest
  | mark {c : Char} {rest : List Char} {token : Token} (hmark : punctuation? c = some token)
      (hrest : token = .assign ∨ token = .percent → rest.head? ≠ some '=') :
      LexesToken (c :: rest) token rest

/-- The text consists of the tokens, with white space around them. -/
inductive Lexes : (text : List Char) → List Token → Prop
  | done : Lexes [] []
  | space {c : Char} {rest : List Char} {tokens : List Token} (hspace : Text.isSpace c = true)
      (hrest : Lexes rest tokens) : Lexes (c :: rest) tokens
  | token {text rest : List Char} {token : Token} {tokens : List Token}
      (htoken : LexesToken text token rest) (hrest : Lexes rest tokens) :
      Lexes text (token :: tokens)

/-! ## Classes of characters -/

theorem isWordPart_of_isWordStart {c : Char} (hc : isWordStart c = true) :
    isWordPart c = true := by
  have hletter : c.isAlpha = true → c.isAlphanum = true := by
    rw [Text.isAlpha_iff, Text.isAlphanum_iff]
    exact .inl
  simp only [isWordStart, isWordPart, Bool.or_eq_true] at hc ⊢
  rcases hc with (halpha | hunderscore) | hdollar
  · exact .inl (.inl (hletter halpha))
  · exact .inl (.inr hunderscore)
  · exact .inr hdollar

theorem isWordPart_of_isDigit {c : Char} (hc : c.isDigit = true) : isWordPart c = true := by
  have halphanum : c.isAlphanum = true := by
    rw [Text.isAlphanum_iff]
    exact .inr (Text.isDigit_iff.mp hc)
  simp [isWordPart, halphanum]

theorem isWordStart_of_isDigit {c : Char} (hc : c.isDigit = true) :
    isWordStart c = false := by
  cases hstart : isWordStart c with
  | false => rfl
  | true =>
      simp only [isWordStart, Bool.or_eq_true, beq_iff_eq, Text.isAlpha_iff] at hstart
      rw [Text.isDigit_iff] at hc
      rcases hstart with (hletter | rfl) | rfl
      · omega
      · exact absurd hc (by decide)
      · exact absurd hc (by decide)

theorem isWordPart_range {c : Char} (hc : isWordPart c = true) :
    0x24 ≤ c.toNat ∧ c.toNat ≤ 0x7A := by
  simp only [isWordPart, Bool.or_eq_true, beq_iff_eq, Text.isAlphanum_iff] at hc
  rcases hc with (halphanum | rfl) | rfl
  · omega
  · decide
  · decide

theorem isSpace_of_isWordPart {c : Char} (hc : isWordPart c = true) :
    Text.isSpace c = false := by
  obtain ⟨hlow, hhigh⟩ := isWordPart_range hc
  simp only [Text.isSpace, Bool.or_eq_false_iff, Bool.and_eq_false_iff, decide_eq_false_iff_not,
    beq_eq_false_iff_ne]
  omega

/-- A punctuation mark is no part of a word, no white space and no quote. -/
theorem of_punctuation {c : Char} {token : Token} (hmark : punctuation? c = some token) :
    isWordPart c = false ∧ Text.isSpace c = false ∧ ¬ (c = '"' ∨ c = '\'') := by
  unfold punctuation? at hmark
  split at hmark
  all_goals cases hmark
  all_goals decide

theorem of_operator {c : Char} {token : Token} (hmark : punctuation? c = some token)
    (hkind : token = .assign ∨ token = .percent) : c = '=' ∨ c = '%' := by
  unfold punctuation? at hmark
  split at hmark
  all_goals cases hmark
  all_goals first
    | decide
    | exact absurd hkind (by decide)

/-! ## Names -/

/-- The characters are a whole name. -/
structure IsName (name : List Char) : Prop where
  start : ∃ c tail, name = c :: tail ∧ isWordStart c = true
  parts : ∀ c ∈ name, isWordPart c = true

theorem isIdentifier_eq_true {name : String} :
    isIdentifier name = true ↔ IsName name.toList := by
  unfold isIdentifier
  cases hname : name.toList with
  | nil =>
      simp only [Bool.false_eq_true, false_iff]
      rintro ⟨⟨c, tail, h, _⟩, _⟩
      cases h
  | cons c tail =>
      simp only [Bool.and_eq_true, List.all_eq_true]
      constructor
      · rintro ⟨hstart, htail⟩
        refine ⟨⟨c, tail, rfl, hstart⟩, ?_⟩
        simp only [List.forall_mem_cons]
        exact ⟨isWordPart_of_isWordStart hstart, htail⟩
      · rintro ⟨⟨d, others, h, hstart⟩, hparts⟩
        cases h
        exact ⟨hstart, fun e he => hparts e (List.mem_cons_of_mem c he)⟩

/-! ## One token -/

theorem readNumber_sound {text : List Char} {token : Token} {length : Nat}
    (h : readNumber text = .ok (token, length)) :
    ∃ digits rest value, text = digits ++ rest ∧ (∀ d ∈ digits, d.isDigit = true) ∧
      Text.IsRun isWordPart digits rest ∧ Text.readInt64? digits = some value ∧
      token = .number value ∧ length = digits.length := by
  obtain ⟨digits, rest, rfl, hrun⟩ := Text.IsRun.exists_append Char.isDigit text
  unfold readNumber at h
  rw [hrun.takeWhile_eq, hrun.dropWhile_eq] at h
  have hfinish : readNumber.finish digits = .ok (token, length) ∧
      ∀ c, rest.head? = some c → isWordPart c = false := by
    cases rest with
    | nil => exact ⟨h, by simp⟩
    | cons next rest =>
        dsimp only at h
        split at h
        · cases h
        next hnext =>
          refine ⟨h, ?_⟩
          intro c hc
          rw [List.head?_cons, Option.some.injEq] at hc
          simpa [hc] using hnext
  obtain ⟨hread, hstops⟩ := hfinish
  unfold readNumber.finish at hread
  split at hread
  next value hvalue =>
    cases hread
    have hparts : ∀ d ∈ digits, isWordPart d = true :=
      fun d hd => isWordPart_of_isDigit (hrun.all d hd)
    exact ⟨digits, rest, value, rfl, hrun.all, ⟨hparts, hstops⟩, hvalue, rfl, rfl⟩
  next => cases hread

theorem readNumber_of_isRun {digits rest : List Char} {value : Int64}
    (hdigits : ∀ d ∈ digits, d.isDigit = true) (hrun : Text.IsRun isWordPart digits rest)
    (hvalue : Text.readInt64? digits = some value) :
    readNumber (digits ++ rest) = .ok (.number value, digits.length) := by
  have hrun' : Text.IsRun Char.isDigit digits rest := by
    refine ⟨hdigits, ?_⟩
    intro c hc
    have hpart := hrun.stops c hc
    cases hdigit : c.isDigit with
    | false => rfl
    | true => simp [isWordPart_of_isDigit hdigit] at hpart
  have hfinish : readNumber.finish digits = .ok (.number value, digits.length) := by
    simp [readNumber.finish, hvalue]
  unfold readNumber
  rw [hrun'.takeWhile_eq, hrun'.dropWhile_eq]
  cases rest with
  | nil => exact hfinish
  | cons c rest => simpa [hrun.stops c rfl] using hfinish

/-- The quote and the backslash both end a text. -/
theorem isRun_content {quote : Char} {content rest : List Char}
    (hcontent : ∀ d ∈ content, d ≠ quote ∧ d ≠ '\\') :
    Text.IsRun (fun c => c != quote && c != '\\') content (quote :: rest) where
  all d hd := by simpa using hcontent d hd
  stops c hc := by
    rw [List.head?_cons, Option.some.injEq] at hc
    simp [hc]

theorem readText_eq_ok {quote : Char} {text : List Char} {token : Token} {length : Nat} :
    readText quote text = .ok (token, length) ↔
      ∃ content rest, text = content ++ quote :: rest ∧
        (∀ d ∈ content, d ≠ quote ∧ d ≠ '\\') ∧
        token = .text (String.ofList content) ∧ length = content.length + 1 := by
  constructor
  · intro h
    obtain ⟨content, rest, rfl, hrun⟩ :=
      Text.IsRun.exists_append (fun c => c != quote && c != '\\') text
    unfold readText at h
    rw [hrun.takeWhile_eq, hrun.dropWhile_eq] at h
    split at h
    next => cases h
    next c rest =>
      split at h
      next hquote =>
        cases h
        refine ⟨content, rest, by rw [hquote], ?_, rfl, rfl⟩
        intro d hd
        simpa using hrun.all d hd
      next => cases h
  · rintro ⟨content, rest, rfl, hcontent, rfl, rfl⟩
    have hrun := @isRun_content quote content rest hcontent
    unfold readText
    rw [hrun.takeWhile_eq, hrun.dropWhile_eq]
    simp

theorem readToken_sound {c : Char} {rest : List Char} {token : Token} {length : Nat}
    (h : readToken c rest = .ok (token, length)) :
    LexesToken (c :: rest) token (rest.drop length) := by
  unfold readToken at h
  split at h
  next hstart =>
    obtain ⟨tail, others, rfl, hrun⟩ := Text.IsRun.exists_append isWordPart rest
    rw [hrun.takeWhile_eq] at h
    cases h
    have hparts : ∀ d ∈ c :: tail, isWordPart d = true :=
      List.forall_mem_cons.mpr ⟨isWordPart_of_isWordStart hstart, hrun.all⟩
    rw [List.drop_left]
    exact .word hstart ⟨hparts, hrun.stops⟩
  · split at h
    next hdigit =>
      cases hnumber : readNumber (c :: rest) with
      | error e => simp [hnumber, Except.map] at h
      | ok found =>
          obtain ⟨digits, others, value, htext, hdigits, hrun, hvalue, htoken, hlength⟩ :=
            readNumber_sound hnumber
          rw [hnumber] at h
          cases h
          cases digits with
          | nil =>
              have hpart := hrun.stops c (by rw [← List.nil_append others, ← htext]; rfl)
              simp [isWordPart_of_isDigit hdigit] at hpart
          | cons d tail =>
              rw [List.cons_append, List.cons.injEq] at htext
              obtain ⟨rfl, rfl⟩ := htext
              rw [htoken, hlength, List.length_cons, Nat.add_sub_cancel, List.drop_left]
              exact .number hdigits hrun hvalue
    next =>
      split at h
      next hquote =>
        obtain ⟨content, others, rfl, hcontent, rfl, rfl⟩ := readText_eq_ok.mp h
        rw [List.append_cons, List.drop_left' (by simp)]
        rw [← List.append_cons]
        exact .text hquote hcontent
      next =>
        split at h
        next => cases h
        next mark hmark =>
          split at h
          next => cases h
          next hrest =>
            cases h
            exact .mark hmark fun hkind hhead => hrest ⟨hkind, hhead⟩

/-- A token starts with a character that is no white space, and is read there. -/
theorem LexesToken.readToken {text rest : List Char} {token : Token}
    (htoken : LexesToken text token rest) :
    ∃ c others length, text = c :: others ∧ Text.isSpace c = false ∧
      readToken c others = .ok (token, length) ∧ others.drop length = rest := by
  cases htoken with
  | @word c tail _ hstart hrun =>
      have hspace := isSpace_of_isWordPart (isWordPart_of_isWordStart hstart)
      refine ⟨c, tail ++ rest, tail.length, rfl, hspace, ?_, List.drop_left⟩
      simp only [Cipher.readToken, if_pos hstart, hrun.of_cons.takeWhile_eq]
  | @number c tail _ value hdigits hrun hvalue =>
      have hdigit := hdigits c List.mem_cons_self
      have hspace := isSpace_of_isWordPart (isWordPart_of_isDigit hdigit)
      refine ⟨c, tail ++ rest, tail.length, rfl, hspace, ?_, List.drop_left⟩
      have hread := readNumber_of_isRun hdigits hrun hvalue
      rw [List.cons_append] at hread
      simp [Cipher.readToken, isWordStart_of_isDigit hdigit, hdigit, hread, Except.map]
  | @text quote content _ hquote hcontent =>
      have hclass : isWordStart quote = false ∧ quote.isDigit = false ∧
          Text.isSpace quote = false := by
        rcases hquote with rfl | rfl <;> decide
      obtain ⟨hstart, hdigit, hspace⟩ := hclass
      refine ⟨quote, _, content.length + 1, rfl, hspace, ?_, ?_⟩
      · have hread := readText_eq_ok.mpr ⟨content, rest, rfl, hcontent, rfl, rfl⟩
        simp [Cipher.readToken, hstart, hdigit, hquote, hread]
      · rw [List.append_cons, List.drop_left' (by simp)]
  | @mark c _ _ hmark hrest =>
      obtain ⟨hpart, hspace, hquote⟩ := of_punctuation hmark
      have hstart : isWordStart c = false := by
        cases h : isWordStart c with
        | false => rfl
        | true => simp [isWordPart_of_isWordStart h] at hpart
      have hdigit : c.isDigit = false := by
        cases h : c.isDigit with
        | false => rfl
        | true => simp [isWordPart_of_isDigit h] at hpart
      refine ⟨c, rest, 0, rfl, hspace, ?_, rfl⟩
      have hsingle : ¬ ((token = .assign ∨ token = .percent) ∧ rest.head? = some '=') :=
        fun h => hrest h.1 h.2
      simp [Cipher.readToken, hstart, hdigit, hquote, hmark, hsingle]

/-! ## All tokens of a text -/

theorem scan_sound {skip : Nat} {text : List Char} {tokens : List Token}
    (h : scan skip text = .ok tokens) : Lexes (text.drop skip) tokens := by
  fun_induction scan skip text generalizing tokens with
  | case1 skip =>
      cases h
      simpa using Lexes.done
  | case2 skip c rest ih => exact ih h
  | case3 c rest hspace ih => exact .space hspace (ih h)
  | case4 c rest hspace ih =>
      obtain ⟨⟨token, length⟩, hread, h⟩ := bind_eq_ok.mp h
      obtain ⟨others, hscan, h⟩ := bind_eq_ok.mp h
      cases h
      exact .token (readToken_sound hread) (ih length hscan)

theorem scan_drop (skip : Nat) (text : List Char) : scan skip text = scan 0 (text.drop skip) := by
  induction text generalizing skip with
  | nil => simp [scan]
  | cons c rest ih =>
      cases skip with
      | zero => rfl
      | succ skip => simpa [scan] using ih skip

theorem Lexes.scan {text : List Char} {tokens : List Token} (hlexes : Lexes text tokens) :
    scan 0 text = .ok tokens := by
  induction hlexes with
  | done => rfl
  | space hspace hrest ih => simpa [Cipher.scan, hspace] using ih
  | token htoken hrest ih =>
      obtain ⟨c, others, length, rfl, hspace, hread, rfl⟩ := htoken.readToken
      rw [← scan_drop] at ih
      simp [Cipher.scan, hspace, hread, ih, bind, Except.bind, pure, Except.pure]

/-- The walk over a text finds its tokens and nothing else. -/
theorem tokenize_eq_ok {source : String} {tokens : List Token} :
    tokenize source = .ok tokens ↔ Lexes source.toList tokens :=
  ⟨scan_sound, Lexes.scan⟩

theorem Lexes.unique {text : List Char} {tokens tokens' : List Token}
    (hlexes : Lexes text tokens) (hlexes' : Lexes text tokens') : tokens = tokens' := by
  have hscan := hlexes.scan
  rw [hlexes'.scan] at hscan
  exact (Except.ok.inj hscan).symm

/-! ## Tokens of a text in two parts -/

/-- The two characters belong to one token, or to none, when they meet. -/
def Joins (last first : Char) : Prop :=
  (isWordPart last = true ∧ isWordPart first = true) ∨
    ((last = '=' ∨ last = '%') ∧ first = '=')

/-- The two texts do not touch within a token. -/
def Meet (text text' : List Char) : Prop :=
  ∀ last first, text.getLast? = some last → text'.head? = some first → ¬ Joins last first

theorem Meet.of_append {front text text' : List Char} (hmeet : Meet (front ++ text) text') :
    Meet text text' := by
  intro last first hlast hfirst
  refine hmeet last first ?_ hfirst
  simp [List.getLast?_append, hlast]

theorem Meet.of_head {text text' text'' : List Char} (hmeet : Meet text text')
    (hhead : text''.head? = text'.head?) : Meet text text'' := by
  intro last first hlast hfirst
  exact hmeet last first hlast (hhead ▸ hfirst)

/-- Nothing joins a mark that stands on its own. -/
theorem meet_of_last {text : List Char} {c : Char} (hlast : text.getLast? = some c)
    (hpart : isWordPart c = false) (hc : c ≠ '=' ∧ c ≠ '%') (text' : List Char) :
    Meet text text' := by
  intro last first hlast' _ hjoins
  rw [hlast] at hlast'
  cases hlast'
  rcases hjoins with ⟨hpart', _⟩ | ⟨rfl | rfl, _⟩
  · simp [hpart] at hpart'
  · exact hc.1 rfl
  · exact hc.2 rfl

theorem meet_of_first {text' : List Char} {c : Char} (hfirst : text'.head? = some c)
    (hpart : isWordPart c = false) (hc : c ≠ '=') (text : List Char) : Meet text text' := by
  intro last first _ hfirst' hjoins
  rw [hfirst] at hfirst'
  cases hfirst'
  rcases hjoins with ⟨_, hpart'⟩ | ⟨_, heq⟩
  · simp [hpart] at hpart'
  · exact hc heq

/-- A word does not join an equals sign or a mark in front of it. -/
theorem meet_of_word {text text' : List Char} {c d : Char} (hlast : text.getLast? = some c)
    (hfirst : text'.head? = some d) (hc : isWordPart c = false) (hd : isWordPart d = true) :
    Meet text text' := by
  intro last first hlast' hfirst' hjoins
  rw [hlast] at hlast'
  rw [hfirst] at hfirst'
  cases hlast'
  cases hfirst'
  rcases hjoins with ⟨hpart, _⟩ | ⟨_, rfl⟩
  · simp [hc] at hpart
  · exact absurd hd (by decide)

theorem LexesToken.taken {text rest : List Char} {token : Token}
    (htoken : LexesToken text token rest) : ∃ taken, text = taken ++ rest := by
  cases htoken with
  | @word c tail _ hstart hrun => exact ⟨c :: tail, rfl⟩
  | @number c tail _ value hdigits hrun hvalue => exact ⟨c :: tail, rfl⟩
  | @text quote content _ hquote hcontent => exact ⟨quote :: (content ++ [quote]), by simp⟩
  | @mark c _ _ hmark hrest => exact ⟨[c], rfl⟩

theorem LexesToken.append {text rest text' : List Char} {token : Token}
    (htoken : LexesToken text token rest) (hmeet : Meet text text') :
    LexesToken (text ++ text') token (rest ++ text') := by
  have hword : ∀ {c : Char} {tail : List Char}, text = c :: tail ++ rest →
      Text.IsRun isWordPart (c :: tail) rest →
      Text.IsRun isWordPart (c :: tail) (rest ++ text') := by
    intro c tail htext hrun
    refine hrun.append ?_
    rintro rfl first hfirst
    rw [List.append_nil] at htext
    subst htext
    have hlast := List.getLast?_eq_some_getLast (List.cons_ne_nil c tail)
    have hpart := hrun.all _ (List.getLast_mem (List.cons_ne_nil c tail))
    have hapart := hmeet _ _ hlast hfirst
    cases hpart' : isWordPart first with
    | false => rfl
    | true => exact (hapart (.inl ⟨hpart, hpart'⟩)).elim
  cases htoken with
  | @word c tail _ hstart hrun =>
      rw [List.append_assoc]
      exact .word hstart (hword rfl hrun)
  | @number c tail _ value hdigits hrun hvalue =>
      rw [List.append_assoc]
      exact .number hdigits (hword rfl hrun) hvalue
  | @text quote content _ hquote hcontent =>
      rw [List.cons_append, List.append_assoc]
      exact .text hquote hcontent
  | @mark c _ _ hmark hrest =>
      refine .mark hmark ?_
      intro hkind
      cases rest with
      | cons d rest => exact hrest hkind
      | nil =>
          intro hfirst
          exact hmeet c '=' rfl hfirst (.inr ⟨of_operator hmark hkind, rfl⟩)

theorem Lexes.append {text text' : List Char} {tokens tokens' : List Token}
    (hlexes : Lexes text tokens) (hlexes' : Lexes text' tokens') (hmeet : Meet text text') :
    Lexes (text ++ text') (tokens ++ tokens') := by
  induction hlexes with
  | done => exact hlexes'
  | @space c rest _ hspace hrest ih =>
      rw [List.cons_append]
      exact .space hspace (ih (@Meet.of_append [c] rest text' hmeet))
  | token htoken hrest ih =>
      obtain ⟨taken, rfl⟩ := htoken.taken
      exact .token (htoken.append hmeet) (ih hmeet.of_append)

/-- A word on its own. -/
theorem Lexes.of_word {c : Char} {tail : List Char} (hstart : isWordStart c = true)
    (hparts : ∀ d ∈ c :: tail, isWordPart d = true) :
    Lexes (c :: tail) [.word (String.ofList (c :: tail))] := by
  have hrun : Text.IsRun isWordPart (c :: tail) [] := ⟨hparts, by simp⟩
  have hword := LexesToken.word hstart hrun
  rw [List.append_nil] at hword
  exact .token hword .done

theorem Lexes.of_name {name : String} (hname : IsName name.toList) :
    Lexes name.toList [.word name] := by
  obtain ⟨c, tail, hsplit, hstart⟩ := hname.start
  have hword := Lexes.of_word hstart (hsplit ▸ hname.parts)
  rwa [← hsplit, String.ofList_toList] at hword

/-- The digits of a number on their own. -/
theorem Lexes.of_toString {n : Nat} (hn : n < 2 ^ 63) :
    Lexes (toString n).toList [.number (Int64.ofInt n)] := by
  have hvalue := Text.readInt64?_toString hn
  have hdigits : ∀ c ∈ (toString n).toList, c.isDigit = true :=
    fun c hc => Text.isDigit_of_mem_toString hc
  cases htext : (toString n).toList with
  | nil => simp at htext
  | cons c tail =>
      rw [htext] at hvalue hdigits
      have hparts : ∀ d ∈ c :: tail, isWordPart d = true :=
        fun d hd => isWordPart_of_isDigit (hdigits d hd)
      have hrun : Text.IsRun isWordPart (c :: tail) [] := ⟨hparts, by simp⟩
      have hnumber := LexesToken.number hdigits hrun hvalue
      rw [List.append_nil] at hnumber
      exact .token hnumber .done

theorem Lexes.of_gap {gap text : List Char} {tokens : List Token} (hgap : Text.IsGap gap)
    (hlexes : Lexes (gap ++ text) tokens) : Lexes text tokens := by
  induction gap with
  | nil => exact hlexes
  | cons c gap ih =>
      refine ih (fun d hd => hgap d (List.mem_cons_of_mem c hd)) ?_
      have hspace := hgap c List.mem_cons_self
      cases hlexes with
      | space _ hrest => exact hrest
      | token htoken hrest =>
          obtain ⟨d, others, length, htext, hspace', _⟩ := htoken.readToken
          obtain ⟨rfl, _⟩ := List.cons.inj htext
          simp [hspace] at hspace'

/-- The first token of a text stands behind white space only. -/
theorem Lexes.exists_first {text : List Char} {token : Token} {tokens : List Token}
    (hlexes : Lexes text (token :: tokens)) :
    ∃ gap front rest, text = gap ++ front ∧ LexesToken front token rest ∧ Lexes rest tokens := by
  generalize hwhole : token :: tokens = whole at hlexes
  induction hlexes with
  | done => cases hwhole
  | @space c rest whole hspace hrest ih =>
      obtain ⟨gap, front, behind, rfl, hfirst⟩ := ih hwhole
      exact ⟨c :: gap, front, behind, rfl, hfirst⟩
  | token htoken hrest ih =>
      cases hwhole
      exact ⟨[], _, _, rfl, htoken, hrest⟩

/-- A punctuation mark at the front of a text is its first token. -/
theorem Lexes.first_mark {c : Char} {mark : Token} {rest : List Char} {tokens : List Token}
    (hmark : punctuation? c = some mark) (hlexes : Lexes (c :: rest) tokens) :
    ∃ others, tokens = mark :: others := by
  obtain ⟨hpart, hspace, hquote⟩ := of_punctuation hmark
  generalize htext : c :: rest = text at hlexes
  cases hlexes with
  | done => cases htext
  | space hspace' hrest =>
      cases htext
      simp [hspace] at hspace'
  | token htoken hrest =>
      cases htoken with
      | word hstart hrun =>
          cases htext
          simp [isWordPart_of_isWordStart hstart] at hpart
      | number hdigits hrun hvalue =>
          cases htext
          simp [isWordPart_of_isDigit (hdigits c List.mem_cons_self)] at hpart
      | text hquote' hcontent =>
          cases htext
          exact absurd hquote' hquote
      | mark hmark' hrest' =>
          cases htext
          rw [hmark] at hmark'
          cases hmark'
          exact ⟨_, rfl⟩

/-! ## Words within a text -/

/-- A word that occurs in a text of one token either ends that token, which is
a word then, or stands behind it. -/
theorem LexesToken.split_at_word {before tail after rest : List Char} {c : Char}
    {token : Token} (htoken : LexesToken (before ++ (c :: tail ++ after)) token rest)
    (htext : ∀ content, token = .text content → content = "")
    (hstart : isWordStart c = true) (hrun : Text.IsRun isWordPart (c :: tail) after) :
    (token = .word (String.ofList (before ++ c :: tail)) ∧ rest = after ∧
        ∀ d ∈ before, isWordPart d = true) ∨
      ∃ taken others, before = taken ++ others ∧ rest = others ++ (c :: tail ++ after) := by
  have hpart := isWordPart_of_isWordStart hstart
  generalize hwhole : before ++ (c :: tail ++ after) = text at htoken
  cases htoken with
  | @word d others _ hstart' hrun' =>
      rcases hrun.ends_or_behind hrun' hwhole with ⟨hword, rfl⟩ | hbehind
      · refine .inl ⟨by rw [hword], rfl, ?_⟩
        intro e he
        exact hrun'.all e (by rw [hword]; simp [he])
      · exact .inr ⟨d :: others, hbehind⟩
  | @number d others _ value hdigits hrun' hvalue =>
      rcases hrun.ends_or_behind hrun' hwhole with ⟨hword, _⟩ | hbehind
      · have hdigit := hdigits c (by rw [hword]; simp)
        simp [isWordStart_of_isDigit hdigit] at hstart
      · exact .inr ⟨d :: others, hbehind⟩
  | @text quote content _ hquote hcontent =>
      have hempty : content = [] := by simpa using htext _ rfl
      have hmark : isWordPart quote = false := by rcases hquote with rfl | rfl <;> decide
      subst hempty
      match before with
      | [] =>
          obtain ⟨rfl, _⟩ := List.cons.inj hwhole
          simp [hpart] at hmark
      | [_] =>
          obtain ⟨_, hwhole⟩ := List.cons.inj hwhole
          obtain ⟨rfl, _⟩ := List.cons.inj hwhole
          simp [hpart] at hmark
      | first :: second :: before =>
          obtain ⟨rfl, hwhole⟩ := List.cons.inj hwhole
          obtain ⟨rfl, rfl⟩ := List.cons.inj hwhole
          exact .inr ⟨[_, _], before, rfl, rfl⟩
  | @mark d _ _ hmark hrest =>
      cases before with
      | nil =>
          obtain ⟨rfl, _⟩ := List.cons.inj hwhole
          simp [(of_punctuation hmark).1] at hpart
      | cons e before =>
          obtain ⟨rfl, rfl⟩ := List.cons.inj hwhole
          exact .inr ⟨[e], before, rfl, rfl⟩

/-- A whole word found anywhere in a text without quoted characters ends a
token, and nothing of that token follows it. -/
theorem Lexes.word_found {before tail after : List Char} {c : Char} {tokens : List Token}
    (hlexes : Lexes (before ++ (c :: tail ++ after)) tokens)
    (htexts : ∀ content, .text content ∈ tokens → content = "")
    (hstart : isWordStart c = true) (hrun : Text.IsRun isWordPart (c :: tail) after) :
    ∃ front start rest, tokens = front ++ .word (String.ofList (start ++ c :: tail)) :: rest ∧
      start <:+ before ∧ (∀ d ∈ start, isWordPart d = true) ∧ Lexes after rest := by
  generalize hwhole : before ++ (c :: tail ++ after) = text at hlexes
  induction hlexes generalizing before with
  | done => simp at hwhole
  | @space d rest _ hspace hrest ih =>
      cases before with
      | nil =>
          obtain ⟨rfl, _⟩ := List.cons.inj hwhole
          simp [isSpace_of_isWordPart (isWordPart_of_isWordStart hstart)] at hspace
      | cons e before =>
          obtain ⟨rfl, hbehind⟩ := List.cons.inj hwhole
          obtain ⟨front, start, others, htokens, hsuffix, hresult⟩ := ih htexts hbehind
          exact ⟨front, start, others, htokens, hsuffix.trans (List.suffix_cons e before), hresult⟩
  | @token text rest token others htoken hrest ih =>
      subst hwhole
      have htext : ∀ content, token = .text content → content = "" := by
        rintro content rfl
        exact htexts content List.mem_cons_self
      rcases htoken.split_at_word htext hstart hrun with ⟨rfl, rfl, hparts⟩ | ⟨taken, m, rfl, hm⟩
      · exact ⟨[], before, others, rfl, List.suffix_refl before, hparts, hrest⟩
      · have hothers : ∀ content, .text content ∈ others → content = "" :=
          fun content hmem => htexts content (List.mem_cons_of_mem _ hmem)
        obtain ⟨front, start, found, rfl, hsuffix, hresult⟩ := ih hothers hm.symm
        exact ⟨token :: front, start, found, rfl, hsuffix.trans (List.suffix_append taken m),
          hresult⟩

/-! ## What texts and tokens hold -/

/-- The characters that tokens are written with, apart from what stands in quotes. -/
def IsSourceChar (c : Char) : Prop :=
  isWordPart c = true ∨ Text.isSpace c = true ∨ (punctuation? c).isSome = true ∨ c = '"' ∨ c = '\''

instance (c : Char) : Decidable (IsSourceChar c) :=
  inferInstanceAs (Decidable (_ ∨ _ ∨ _ ∨ _ ∨ _))

theorem Lexes.isSourceChar {text : List Char} {tokens : List Token} (hlexes : Lexes text tokens)
    (htexts : ∀ content, .text content ∈ tokens → content = "") : ∀ c ∈ text, IsSourceChar c := by
  induction hlexes with
  | done => simp
  | space hspace hrest ih =>
      simp only [List.forall_mem_cons]
      exact ⟨.inr (.inl hspace), ih htexts⟩
  | token htoken hrest ih =>
      have hothers := ih fun content hmem => htexts content (List.mem_cons_of_mem _ hmem)
      cases htoken with
      | word hstart hrun =>
          simp only [List.forall_mem_append]
          exact ⟨fun c hc => .inl (hrun.all c hc), hothers⟩
      | number hdigits hrun hvalue =>
          simp only [List.forall_mem_append]
          exact ⟨fun c hc => .inl (hrun.all c hc), hothers⟩
      | @text quote content _ hquote hcontent =>
          have hempty : content = [] := by simpa using htexts _ List.mem_cons_self
          have hmark : IsSourceChar quote := .inr (.inr (.inr hquote))
          subst hempty
          simp only [List.nil_append, List.forall_mem_cons]
          exact ⟨hmark, hmark, hothers⟩
      | mark hmark hrest' =>
          simp only [List.forall_mem_cons]
          exact ⟨.inr (.inr (.inl (by rw [hmark]; rfl))), hothers⟩

/-- What a token holds when it comes from a text: a whole name, a number without a
sign, or characters that need no escape. -/
def Token.IsWritten : Token → Prop
  | .word name => IsName name.toList
  | .number value => 0 ≤ value.toInt
  | .text content => '\\' ∉ content.toList
  | _ => True

theorem LexesToken.isWritten {text rest : List Char} {token : Token}
    (htoken : LexesToken text token rest) : token.IsWritten := by
  cases htoken with
  | @word c tail _ hstart hrun =>
      rw [Token.IsWritten, String.toList_ofList]
      exact ⟨⟨c, tail, rfl, hstart⟩, hrun.all⟩
  | number hdigits hrun hvalue => exact Text.readInt64?_digits_nonneg hdigits hvalue
  | text hquote hcontent =>
      rw [Token.IsWritten, String.toList_ofList]
      exact fun hmem => (hcontent _ hmem).2 rfl
  | mark hmark hrest =>
      unfold punctuation? at hmark
      split at hmark <;> cases hmark <;> trivial

theorem Lexes.isWritten {text : List Char} {tokens : List Token} (hlexes : Lexes text tokens) :
    ∀ token ∈ tokens, token.IsWritten := by
  induction hlexes with
  | done => simp
  | space hspace hrest ih => exact ih
  | token htoken hrest ih =>
      simp only [List.forall_mem_cons]
      exact ⟨htoken.isWritten, ih⟩

end StreamLinks.Cipher
