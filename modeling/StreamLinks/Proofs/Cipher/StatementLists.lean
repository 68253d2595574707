import StreamLinks.Proofs.Cipher.Bodies

/-!
# Statements between semicolons

A body is cut into statements after it has been read as tokens as a whole.  This is the
same as cutting its text at a semicolon and reading the two parts on their own.  A
semicolon joins no token beside it, so the tokens of the parts are tokens of the whole.
For the other direction the whole has to be known to be a body: a semicolon could stand in
quotes, but statements have no quoted characters.
-/

namespace StreamLinks.Cipher

variable {before taken others after rest front back : List Char} {c : Char} {mark token : Token}
  {tokens : List Token} {statements : List Statement}

/-! ## Tokens of a text that is cut at a mark -/

/-- All that a token needs of the text behind it is its first character. -/
theorem LexesToken.of_head (htoken : LexesToken (taken ++ rest) token rest)
    (hhead : ∀ c, others.head? = some c → rest.head? = some c) :
    LexesToken (taken ++ others) token others := by
  generalize hwhole : taken ++ rest = text at htoken
  cases htoken with
  | @word d tail _ hstart hrun =>
      rw [List.append_cancel_right_eq] at hwhole
      rw [hwhole]
      exact .word hstart (hrun.of_head hhead)
  | @number d tail _ value hdigits hrun hvalue =>
      rw [List.append_cancel_right_eq] at hwhole
      rw [hwhole]
      exact .number hdigits (hrun.of_head hhead) hvalue
  | @text quote content _ hquote hcontent =>
      have htaken : taken ++ rest = quote :: (content ++ [quote]) ++ rest := by simp [hwhole]
      rw [List.append_cancel_right_eq] at htaken
      rw [htaken, List.cons_append, List.append_assoc, List.singleton_append]
      exact .text hquote hcontent
  | @mark d _ _ hmark hrest =>
      have htaken : taken ++ rest = [d] ++ rest := hwhole
      rw [List.append_cancel_right_eq] at htaken
      rw [htaken]
      exact .mark hmark fun hkind hassign => hrest hkind (hhead '=' hassign)

/-- A token without quoted characters that has a punctuation mark in it is that mark. -/
theorem LexesToken.eq_mark_of_mem (htoken : LexesToken (taken ++ rest) token rest)
    (htext : ∀ content, token = .text content → content = "")
    (hmark : punctuation? c = some mark) (hmem : c ∈ taken) : taken = [c] ∧ token = mark := by
  obtain ⟨hpart, -, hquote⟩ := of_punctuation hmark
  have hrun : ∀ {run : List Char}, run ++ rest = taken ++ rest →
      ¬ Text.IsRun isWordPart run rest := by
    intro run hwhole hrun
    rw [List.append_cancel_right_eq] at hwhole
    rw [hrun.all c (hwhole ▸ hmem)] at hpart
    cases hpart
  generalize hwhole : taken ++ rest = text at htoken
  cases htoken with
  | word hstart hword => exact (hrun hwhole.symm hword).elim
  | number hdigits hword hvalue => exact (hrun hwhole.symm hword).elim
  | @text quote content _ hquote' hcontent =>
      have hempty : content = [] := by simpa using htext _ rfl
      have htaken : taken ++ rest = [quote, quote] ++ rest := by simp [hwhole, hempty]
      rw [List.append_cancel_right_eq] at htaken
      have hc : c = quote := by simpa [htaken] using hmem
      exact absurd (hc ▸ hquote') hquote
  | @mark d _ _ hmark' hrest =>
      have htaken : taken ++ rest = [d] ++ rest := hwhole
      rw [List.append_cancel_right_eq] at htaken
      have hc : c = d := by simpa [htaken] using hmem
      rw [← hc, hmark, Option.some.injEq] at hmark'
      exact ⟨by rw [htaken, hc], hmark'.symm⟩

/-- The first token of a text with a punctuation mark is that mark, or ends in front of
it. -/
theorem LexesToken.split_at_mark (htoken : LexesToken (before ++ c :: after) token rest)
    (htext : ∀ content, token = .text content → content = "")
    (hmark : punctuation? c = some mark) :
    (before = [] ∧ token = mark ∧ rest = after) ∨
      ∃ others, LexesToken before token others ∧ rest = others ++ c :: after := by
  obtain ⟨taken, hwhole⟩ := htoken.taken
  rw [hwhole] at htoken
  have hends : ∀ others, before = taken ++ others → rest = others ++ c :: after →
      ∃ others, LexesToken before token others ∧ rest = others ++ c :: after := by
    rintro others rfl rfl
    exact ⟨others, htoken.of_head fun d hd => by simp [hd], rfl⟩
  rcases List.append_eq_append_iff.mp hwhole with ⟨more, htaken, hbehind⟩ | ⟨others, hfront, hrest⟩
  · cases more with
    | nil => exact .inr (hends [] (by simpa using htaken.symm) hbehind.symm)
    | cons d more =>
        obtain ⟨rfl, hafter⟩ := List.cons.inj hbehind
        obtain ⟨hsingle, htoken⟩ := htoken.eq_mark_of_mem htext hmark (by simp [htaken])
        rw [hsingle, List.singleton_eq_append_iff] at htaken
        rcases htaken with ⟨hbefore, hmore⟩ | ⟨-, hmore⟩
        · cases hmore
          exact .inl ⟨hbefore, htoken, hafter.symm⟩
        · cases hmore
  · exact .inr (hends others hfront hrest)

/-- A punctuation mark in a text without quoted characters is a token, and divides the
others into those of the text before it and those of the text behind it. -/
theorem Lexes.split_at_mark (hlexes : Lexes (front ++ c :: back) tokens)
    (htexts : ∀ content, .text content ∈ tokens → content = "")
    (hmark : punctuation? c = some mark) :
    ∃ first second, tokens = first ++ mark :: second ∧ Lexes front first ∧ Lexes back second := by
  generalize hwhole : front ++ c :: back = text at hlexes
  induction hlexes generalizing front with
  | done => simp at hwhole
  | @space d rest tokens hspace hrest ih =>
      cases front with
      | nil =>
          obtain ⟨rfl, -⟩ := List.cons.inj hwhole
          simp [(of_punctuation hmark).2.1] at hspace
      | cons e front =>
          obtain ⟨rfl, hbehind⟩ := List.cons.inj hwhole
          obtain ⟨first, second, htokens, hfirst, hsecond⟩ := ih htexts hbehind
          exact ⟨first, second, htokens, .space hspace hfirst, hsecond⟩
  | @token text rest token tokens htoken hrest ih =>
      subst hwhole
      have htext : ∀ content, token = .text content → content = "" := by
        rintro content rfl
        exact htexts content List.mem_cons_self
      rcases htoken.split_at_mark htext hmark with ⟨rfl, rfl, rfl⟩ | ⟨others, hfront, hbehind⟩
      · exact ⟨[], tokens, rfl, .done, hrest⟩
      · have hothers : ∀ content, .text content ∈ tokens → content = "" :=
          fun content hmem => htexts content (List.mem_cons_of_mem _ hmem)
        obtain ⟨first, second, rfl, hfirst, hsecond⟩ := ih hothers hbehind.symm
        exact ⟨token :: first, second, rfl, .token hfront hfirst, hsecond⟩

/-! ## Bodies in two parts -/

theorem writesBody_append_iff {first second : List Token} :
    WritesBody (first ++ .semicolon :: second) statements ↔
      ∃ earlier later, WritesBody first earlier ∧ WritesBody second later ∧
        statements = earlier ++ later := by
  have hsplit := @Text.splitWhere_append_separator _ (· == Token.semicolon) .semicolon rfl
    first second
  rw [WritesBody, hsplit, List.filter_append, Text.forall₂_append_left_iff]
  rfl

theorem parseBody_semicolon_eq_ok {front back : String} :
    parseBody (front ++ ";" ++ back) = .ok statements ↔
      ∃ earlier later, parseBody front = .ok earlier ∧ parseBody back = .ok later ∧
        statements = earlier ++ later := by
  have hwhole : (front ++ ";" ++ back).toList = front.toList ++ ';' :: back.toList := by simp
  have hsemicolon : punctuation? ';' = some .semicolon := rfl
  rw [parseBody_eq_ok, hwhole]
  constructor
  · rintro ⟨tokens, hlexes, hbody⟩
    obtain ⟨first, second, rfl, hfirst, hsecond⟩ :=
      hlexes.split_at_mark (fun _ => hbody.text_eq_empty) hsemicolon
    obtain ⟨earlier, later, hearlier, hlater, rfl⟩ := writesBody_append_iff.mp hbody
    exact ⟨earlier, later, parseBody_eq_ok.mpr ⟨first, hfirst, hearlier⟩,
      parseBody_eq_ok.mpr ⟨second, hsecond, hlater⟩, rfl⟩
  · rintro ⟨earlier, later, hfront, hback, rfl⟩
    obtain ⟨first, hfirst, hearlier⟩ := parseBody_eq_ok.mp hfront
    obtain ⟨second, hsecond, hlater⟩ := parseBody_eq_ok.mp hback
    have hmark : Lexes [';'] [.semicolon] := .token (.mark hsemicolon (by simp)) .done
    have hbehind : Lexes (';' :: back.toList) (.semicolon :: second) :=
      hmark.append hsecond (meet_of_last rfl (by decide) (by decide) _)
    have hlexes : Lexes (front.toList ++ ';' :: back.toList) (first ++ .semicolon :: second) :=
      hfirst.append hbehind (meet_of_first rfl (by decide) (by decide) _)
    exact ⟨_, hlexes, writesBody_append_iff.mpr ⟨earlier, later, hearlier, hlater, rfl⟩⟩

/-! ## Lists of statements -/

/-- The text lists statements: each of them has a text of its own, semicolons stand between
these texts, and further semicolons may stand before and behind any of them. -/
inductive ListsStatements : (body : String) → List Statement → Prop
  | none : ListsStatements "" []
  | last {text : String} {statement : Statement} (htext : parseStatement text = .ok statement) :
      ListsStatements text [statement]
  | more {text rest : String} {statement : Statement} {statements : List Statement}
      (htext : parseStatement text = .ok statement) (hrest : ListsStatements rest statements) :
      ListsStatements (text ++ ";" ++ rest) (statement :: statements)
  | semicolon {rest : String} {statements : List Statement}
      (hrest : ListsStatements rest statements) : ListsStatements (";" ++ rest) statements

theorem parseBody_of_parseStatement {text : String} {statement : Statement}
    (htext : parseStatement text = .ok statement) : parseBody text = .ok [statement] := by
  obtain ⟨tokens, htokens, hwrites⟩ := parseStatement_eq_ok.mp htext
  refine parseBody_eq_ok.mpr ⟨tokens, tokenize_eq_ok.mp htokens, ?_⟩
  have hkept : [tokens].filter (! ·.isEmpty) = [tokens] := by simp [hwrites.ne_nil]
  rw [WritesBody, Text.splitWhere_of_none hwrites.no_separator, hkept]
  exact .cons hwrites .nil

theorem ListsStatements.parseBody_eq {body : String} (hlists : ListsStatements body statements) :
    parseBody body = .ok statements := by
  have hempty : parseBody "" = .ok [] := rfl
  induction hlists with
  | none => exact hempty
  | last htext => exact parseBody_of_parseStatement htext
  | more htext hrest ih =>
      exact parseBody_semicolon_eq_ok.mpr ⟨_, _, parseBody_of_parseStatement htext, ih, rfl⟩
  | semicolon hrest ih =>
      have hwhole := parseBody_semicolon_eq_ok.mpr ⟨_, _, hempty, ih, rfl⟩
      rwa [String.empty_append] at hwhole

/-- A body with a semicolon in it is read if and only if the text before the semicolon and
the text behind it are, and it has the statements of the one and then those of the other.
So a list of statements is read as these statements, however many semicolons there are. -/
theorem bodies_compose (name params : String) :
    (∀ front back function, parseFunction name params (front ++ ";" ++ back) = .ok function ↔
      ∃ first second, parseFunction name params front = .ok first ∧
        parseFunction name params back = .ok second ∧
        function = { first with body := first.body ++ second.body }) ∧
    ∀ body statements, ListsStatements body statements →
      parseFunction name params body =
        (parseParams params).map fun names => { name, params := names, body := statements } := by
  constructor
  · intro front back function
    simp only [parseFunction_eq_ok, parseBody_semicolon_eq_ok]
    constructor
    · rintro ⟨hname, hparams, earlier, later, hearlier, hlater, hbody⟩
      refine ⟨{ function with body := earlier }, { function with body := later },
        ⟨hname, hparams, hearlier⟩, ⟨hname, hparams, hlater⟩, ?_⟩
      rw [← hbody]
    · rintro ⟨first, second, ⟨hname, hparams, hearlier⟩, ⟨-, -, hlater⟩, rfl⟩
      exact ⟨hname, hparams, _, _, hearlier, hlater, rfl⟩
  · intro body statements hlists
    rw [parseFunction, hlists.parseBody_eq]
    cases parseParams params <;> rfl

/-- Semicolons in front, two of them between the statements, and a blank behind the last. -/
theorem bodies_compose_of_reversal :
    ListsStatements ";a=a.reverse();; return a " [.assign "a" (.reverse "a"), .ret (.variable "a")]
      ∧ parseFunction "f" "a" ";a=a.reverse();; return a " =
        .ok ⟨"f", ["a"], [.assign "a" (.reverse "a"), .ret (.variable "a")]⟩ := by
  have hlists : ListsStatements (";" ++ ("a=a.reverse()" ++ ";" ++ (";" ++ " return a ")))
      [.assign "a" (.reverse "a"), .ret (.variable "a")] :=
    .semicolon (.more (by decide +kernel) (.semicolon (.last (by decide +kernel))))
  have htext : ";" ++ ("a=a.reverse()" ++ ";" ++ (";" ++ " return a ")) =
      ";a=a.reverse();; return a " := by decide +kernel
  have hparams : parseParams "a" = .ok ["a"] := by decide +kernel
  rw [htext] at hlists
  have hread := (bodies_compose "f" "a").2 _ _ hlists
  rw [hparams] at hread
  exact ⟨hlists, hread⟩

end StreamLinks.Cipher
