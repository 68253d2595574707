import StreamLinks.Proofs.Cipher.Search

/-!
# Passing over definitions and finding them

A definition is a header, parameters and a body.  Whatever form its header has, it
begins no definition of another name, so a search passes over it; and the search for
its own name ends at its header.  Neither depends on what stands in front, as long as
that is a separator, and the place in front of a script is as good as one.
-/

namespace StreamLinks.Cipher

open Text (IsGap isGap_nil isGap_space)

/-! ## Openings up to their parenthesis -/

def IsDeclaredOpening (name opening : List Char) : Prop :=
  ∃ gap gap', gap ≠ [] ∧ IsGap gap ∧ IsGap gap' ∧
    opening = "function".toList ++ gap ++ name ++ gap'

def IsAssignedOpening (name opening : List Char) : Prop :=
  ∃ gap gap' gap'', IsGap gap ∧ IsGap gap' ∧ IsGap gap'' ∧
    opening = name ++ gap ++ '=' :: gap' ++ "function".toList ++ gap''

section

variable {name opening rest : List Char}

theorem paren_not_mem_of_isPlain (hopening : ∀ c ∈ opening, IsPlain c) : '(' ∉ opening :=
  fun hparen => absurd (hopening '(' hparen) (by decide)

theorem OpensDeclared.isDeclaredOpening (hname : IsName name) (hparen : '(' ∉ opening)
    (hopens : OpensDeclared name (opening ++ '(' :: rest)) : IsDeclaredOpening name opening := by
  obtain ⟨gap, gap', others, hne, hgap, hgap', htext⟩ := hopens
  have hplain := paren_not_mem_of_isPlain (isPlain_of_declared hname hgap hgap')
  obtain ⟨hopening, -⟩ := Text.eq_of_first_separator htext hparen hplain
  exact ⟨gap, gap', hne, hgap, hgap', hopening⟩

theorem OpensAssigned.isAssignedOpening (hname : IsName name) (hparen : '(' ∉ opening)
    (hopens : OpensAssigned name (opening ++ '(' :: rest)) : IsAssignedOpening name opening := by
  obtain ⟨gap, gap', gap'', others, hgap, hgap', hgap'', htext⟩ := hopens
  have hplain := paren_not_mem_of_isPlain (isPlain_of_assigned hname hgap hgap' hgap'')
  obtain ⟨hopening, -⟩ := Text.eq_of_first_separator htext hparen hplain
  exact ⟨gap, gap', gap'', hgap, hgap', hgap'', hopening⟩

theorem IsName.assign_not_mem (hname : IsName name) : '=' ∉ name :=
  fun h => absurd (hname.parts '=' h) (by decide)

theorem IsDeclaredOpening.isPlain (hname : IsName name)
    (hopening : IsDeclaredOpening name opening) : ∀ c ∈ opening, IsPlain c := by
  obtain ⟨gap, gap', -, hgap, hgap', rfl⟩ := hopening
  exact isPlain_of_declared hname hgap hgap'

theorem IsDeclaredOpening.assign_not_mem (hname : IsName name)
    (hopening : IsDeclaredOpening name opening) : '=' ∉ opening := by
  obtain ⟨gap, gap', -, hgap, hgap', rfl⟩ := hopening
  simp only [List.mem_append, not_or]
  exact ⟨⟨⟨isName_function.assign_not_mem, hgap.not_mem (by decide)⟩, hname.assign_not_mem⟩,
    hgap'.not_mem (by decide)⟩

theorem IsAssignedOpening.assign_mem (hopening : IsAssignedOpening name opening) :
    '=' ∈ opening := by
  obtain ⟨gap, gap', gap'', -, -, -, rfl⟩ := hopening
  simp

/-- In front of its equals sign an assigned opening has the name. -/
theorem IsAssignedOpening.front_eq {front back : List Char} (hname : IsName name)
    (hopening : IsAssignedOpening name (front ++ '=' :: back)) (hfront : '=' ∉ front) :
    ∃ gap, IsGap gap ∧ front = name ++ gap := by
  obtain ⟨gap, gap', gap'', hgap, -, -, htext⟩ := hopening
  have hassign : '=' ∉ name ++ gap := by
    rw [List.mem_append, not_or]
    exact ⟨hname.assign_not_mem, hgap.not_mem (by decide)⟩
  have htext' : front ++ '=' :: back =
      (name ++ gap) ++ '=' :: (gap' ++ "function".toList ++ gap'') := by
    simpa using htext
  exact ⟨gap, hgap, (Text.eq_of_first_separator htext' hfront hassign).1⟩

theorem OpensDeclared.not_opensAssigned {text : List Char} (hname : IsName name)
    (hopens : OpensDeclared name text) : ¬ OpensAssigned name text := by
  intro hassigned
  obtain ⟨gap, gap', others, hne, hgap, hgap', rfl⟩ := hopens
  have hopening : IsDeclaredOpening name ("function".toList ++ gap ++ name ++ gap') :=
    ⟨gap, gap', hne, hgap, hgap', rfl⟩
  have hparen := paren_not_mem_of_isPlain (hopening.isPlain hname)
  exact hopening.assign_not_mem hname (hassigned.isAssignedOpening hname hparen).assign_mem

end

/-! ## Headers -/

/-- A character in front of a definition that is neither part of an opening nor joined to
a name. -/
structure IsSeparator (c : Char) : Prop where
  not_plain : ¬ IsPlain c
  ne_paren : c ≠ '('
  not_joins : joinsName c = false

theorem isSeparator_semicolon : IsSeparator ';' := ⟨by decide, by decide, by decide⟩

theorem isSeparator_brace : IsSeparator '}' := ⟨by decide, by decide, by decide⟩

theorem joinsName_of_isWordPart {c : Char} (hc : isWordPart c = true) : joinsName c = true := by
  have hrange := (isWordPart_range hc).2
  have hword : Text.isWord c = (c.isAlphanum || c == '_') := if_pos (by omega)
  rw [joinsName, hword]
  unfold isWordPart at hc
  rw [hc, Bool.true_or]

theorem isWordPart_of_joinsName {c : Char} (hc : joinsName c = false) : isWordPart c = false := by
  cases hpart : isWordPart c with
  | false => rfl
  | true =>
      rw [joinsName_of_isWordPart hpart] at hc
      cases hc

/-- The headers `function NAME`, `NAME=function` and `var NAME=function`. -/
inductive Form where
  | declared
  | assigned
  | initialized
deriving DecidableEq

/-- What stands in front of the name that a function is assigned to. -/
def Form.lead : Form → List Char
  | .initialized => ['v', 'a', 'r', ' ']
  | _ => []

def Form.header (form : Form) (name : List Char) : List Char :=
  match form with
  | .declared => "function".toList ++ ' ' :: name
  | _ => form.lead ++ name ++ '=' :: "function".toList

private theorem suffix_append_cons {α : Type} {back u v : List α} {x : α}
    (h : back <:+ u ++ x :: v) : back <:+ v ∨ ∃ head, head <:+ u ∧ back = head ++ x :: v := by
  obtain ⟨front, hfront⟩ := h
  rcases List.append_eq_append_iff.mp hfront with ⟨m, rfl, hback⟩ | ⟨m, _, hback⟩
  · exact .inr ⟨m, List.suffix_append front m, hback⟩
  · cases m with
    | nil => exact .inr ⟨[], List.nil_suffix, hback.symm⟩
    | cons y m =>
        obtain ⟨_, rfl⟩ := List.cons.inj hback
        exact .inl (List.suffix_append m back)

section

variable {name other head front : List Char} {s c d : Char} {form : Form}

theorem Form.header_declared (name : List Char) :
    Form.declared.header name = "function".toList ++ ' ' :: name := rfl

theorem Form.header_of_ne_declared (hform : form ≠ .declared) (name : List Char) :
    form.header name = form.lead ++ name ++ '=' :: "function".toList := by
  cases form with
  | declared => contradiction
  | assigned => rfl
  | initialized => rfl

/-- The name that a function is assigned to has a character in front of it that does not
join it. -/
theorem Form.lead_boundary (hs : IsSeparator s) (form : Form) :
    ∃ front d, s :: form.lead = front ++ [d] ∧ joinsName d = false := by
  cases form with
  | declared => exact ⟨[], s, rfl, hs.not_joins⟩
  | assigned => exact ⟨[], s, rfl, hs.not_joins⟩
  | initialized => exact ⟨[s, 'v', 'a', 'r'], ' ', rfl, by decide⟩

theorem Form.assign_not_mem_lead (form : Form) : '=' ∉ form.lead := by
  cases form with
  | declared => exact List.not_mem_nil
  | assigned => exact List.not_mem_nil
  | initialized => simp [lead]

theorem Form.isPlain_lead (form : Form) : ∀ c ∈ form.lead, IsPlain c := by
  cases form with
  | declared => simp [lead]
  | assigned => simp [lead]
  | initialized =>
      rw [lead, List.forall_mem_cons, List.forall_mem_cons, List.forall_mem_cons,
        List.forall_mem_singleton]
      decide

theorem Form.isPlain_header (hname : IsName name) (form : Form) :
    ∀ c ∈ form.header name, IsPlain c := by
  have hfunction : ∀ c ∈ "function".toList, IsPlain c := isPlain_of_isName isName_function
  have hspace : IsPlain ' ' := by decide
  have hassign : IsPlain '=' := by decide
  by_cases hform : form = .declared
  · rw [hform, header_declared, List.forall_mem_append, List.forall_mem_cons]
    exact ⟨hfunction, hspace, isPlain_of_isName hname⟩
  · rw [header_of_ne_declared hform, List.forall_mem_append, List.forall_mem_append,
      List.forall_mem_cons]
    exact ⟨⟨isPlain_lead form, isPlain_of_isName hname⟩, hassign, hfunction⟩

theorem Form.assign_not_mem_declared (hname : IsName name) :
    '=' ∉ Form.declared.header name := by
  have hspace : ('=' : Char) ≠ ' ' := by decide
  rw [header_declared, List.mem_append, List.mem_cons, not_or, not_or]
  exact ⟨isName_function.assign_not_mem, hspace, hname.assign_not_mem⟩

theorem IsName.isRun_reverse {rest : List Char} (hname : IsName name)
    (hc : joinsName c = false) : Text.IsRun isWordPart name.reverse (c :: rest) := by
  refine ⟨fun d hd => hname.parts d (List.mem_reverse.mp hd), ?_⟩
  rintro d ⟨⟩
  exact isWordPart_of_joinsName hc

theorem IsName.reverse_not_space (hname : IsName name) {rest : List Char} (d : Char)
    (hd : (name.reverse ++ rest).head? = some d) : Text.isSpace d = false := by
  obtain ⟨first, tail, hname', -⟩ := hname.start
  have hne : name.reverse ≠ [] := by simp [hname']
  rw [List.head?_append_of_ne_nil _ hne] at hd
  exact isSpace_of_isWordPart (hname.parts d (List.mem_reverse.mp (List.mem_of_mem_head? hd)))

/-- A name at the end of a text is all of the word there. -/
theorem IsName.eq_of_last {gap before : List Char} (hname : IsName name) (hother : IsName other)
    (hgap : IsGap gap) (hc : joinsName c = false) (hd : joinsName d = false)
    (htext : before ++ c :: (name ++ gap) = front ++ d :: other) : name = other ∧ gap = [] := by
  -- Read from its end, the text is white space, a word and a character that ends the word.
  have hreversed : gap.reverse ++ (name.reverse ++ c :: before.reverse) =
      [] ++ (other.reverse ++ d :: front.reverse) := by
    simpa using congrArg List.reverse htext
  have hgapRun : Text.IsRun Text.isSpace gap.reverse (name.reverse ++ c :: before.reverse) :=
    ⟨fun e he => hgap e (List.mem_reverse.mp he), hname.reverse_not_space⟩
  have hnoGap : Text.IsRun Text.isSpace [] (other.reverse ++ d :: front.reverse) :=
    ⟨by simp, hother.reverse_not_space⟩
  obtain ⟨hnil, hnames⟩ := hgapRun.unique hnoGap hreversed
  have hnameRun : Text.IsRun isWordPart name.reverse (c :: before.reverse) :=
    hname.isRun_reverse hc
  have hotherRun : Text.IsRun isWordPart other.reverse (d :: front.reverse) :=
    hother.isRun_reverse hd
  have hsame := (hnameRun.unique hotherRun hnames).1
  exact ⟨List.reverse_inj.mp hsame, List.reverse_eq_nil_iff.mp hnil⟩

/-- The front of a definition opens that definition and no other. -/
theorem eq_of_suffix_header {gap gap' : List Char} (hname : IsName name) (hother : IsName other)
    (hgap : IsGap gap) (hne : gap ≠ []) (hgap' : IsGap gap')
    (hsuffix :
      "function".toList ++ (gap ++ (name ++ gap')) <:+ "function".toList ++ ' ' :: other) :
    name = other := by
  have hword : Text.IsRun isWordPart "function".toList (gap ++ (name ++ gap')) :=
    ⟨isName_function.parts, isWordPart_head_of_ne_nil hgap hne _⟩
  rcases suffix_append_cons hsuffix with hinside | ⟨head, hhead, heq⟩
  · -- The name would have to contain the white space of the opening.
    obtain ⟨c, hc⟩ := List.exists_mem_of_ne_nil gap hne
    have hpart := hother.parts c (hinside.mem (by simp [hc]))
    simp [isWordPart_of_isSpace (hgap c hc)] at hpart
  · have hhead' : Text.IsRun isWordPart head (' ' :: other) :=
      ⟨fun c hc => isName_function.parts c (hhead.mem hc), fun c hc => by cases hc; decide⟩
    obtain ⟨_, hbehind⟩ := hword.unique hhead' heq
    have hspace : Text.IsRun Text.isSpace [' '] (other ++ []) :=
      isGap_space.isRun (hother.not_space [])
    have hbehind' : gap ++ (name ++ gap') = [' '] ++ (other ++ []) := by simpa using hbehind
    obtain ⟨_, hnames⟩ := (hgap.isRun (hname.not_space gap')).unique hspace hbehind'
    have hname' : Text.IsRun isWordPart name gap' := by
      refine ⟨hname.parts, fun c hc => ?_⟩
      exact isWordPart_of_isSpace (hgap' c (List.mem_of_mem_head? hc))
    have hother' : Text.IsRun isWordPart other [] := ⟨hother.parts, by simp⟩
    exact (hname'.unique hother' hnames).1

/-- Only the header of a definition that declares a name has the opening that declares it. -/
theorem eq_of_declared_suffix (hs : IsSeparator s) (hname : IsName name) (hother : IsName other)
    (hopening : IsDeclaredOpening name head) (hhead : head <:+ s :: form.header other) :
    form = .declared ∧ name = other := by
  have hinside : head <:+ form.header other := by
    rcases List.suffix_cons_iff.mp hhead with rfl | hinside
    · exact absurd (hopening.isPlain hname s List.mem_cons_self) hs.not_plain
    · exact hinside
  by_cases hform : form = .declared
  · subst hform
    obtain ⟨gap, gap', hne, hgap, hgap', rfl⟩ := hopening
    rw [List.append_assoc, List.append_assoc] at hinside
    exact ⟨rfl, eq_of_suffix_header hname hother hgap hne hgap' hinside⟩
  · rw [Form.header_of_ne_declared hform] at hinside
    rcases suffix_append_cons hinside with hfunction | ⟨front, -, rfl⟩
    · -- The opening has white space and the word `function` has none.
      obtain ⟨gap, gap', hne, hgap, -, rfl⟩ := hopening
      obtain ⟨c, hc⟩ := List.exists_mem_of_ne_nil gap hne
      have hpart := isName_function.parts c (hfunction.mem (by simp [hc]))
      simp [isWordPart_of_isSpace (hgap c hc)] at hpart
    · exact absurd (by simp) (hopening.assign_not_mem hname)

/-- Only the header of a definition that assigns to a name has the opening that assigns to
it. -/
theorem eq_of_assigned_suffix (hs : IsSeparator s) (hname : IsName name) (hother : IsName other)
    (hopening : IsAssignedOpening name head) (hc : joinsName c = false)
    (hhead : c :: head <:+ s :: form.header other) :
    form ≠ .declared ∧ name = other ∧ head = name ++ '=' :: "function".toList := by
  have hassign : '=' ∈ c :: head := List.mem_cons_of_mem c hopening.assign_mem
  have hne : s ≠ '=' := by
    rintro rfl
    exact hs.not_plain (by decide)
  by_cases hform : form = .declared
  · subst hform
    rcases List.mem_cons.mp (hhead.mem hassign) with heq | hmem
    · exact absurd heq.symm hne
    · exact absurd hmem (Form.assign_not_mem_declared hother)
  · rw [Form.header_of_ne_declared hform, ← List.cons_append, ← List.cons_append] at hhead
    rcases suffix_append_cons hhead with hfunction | ⟨front, hfront, htext⟩
    · exact absurd (hfunction.mem hassign) isName_function.assign_not_mem
    · cases front with
      | nil =>
          obtain ⟨rfl, rfl⟩ := List.cons.inj htext
          exact absurd hopening.assign_mem isName_function.assign_not_mem
      | cons e front =>
          obtain ⟨rfl, rfl⟩ := List.cons.inj htext
          obtain ⟨lead, d, hlead, hd⟩ := form.lead_boundary hs
          have hnotMem : '=' ∉ front := by
            intro hmem
            have hmem' := hfront.mem (List.mem_cons_of_mem c hmem)
            rw [List.mem_append, List.mem_cons] at hmem'
            rcases hmem' with (heq | hmem') | hmem'
            · exact hne heq.symm
            · exact form.assign_not_mem_lead hmem'
            · exact hother.assign_not_mem hmem'
          obtain ⟨gap, hgap, rfl⟩ := hopening.front_eq hname hnotMem
          obtain ⟨before, hbefore⟩ := hfront
          rw [hlead, List.append_assoc, List.singleton_append] at hbefore
          obtain ⟨hsame, rfl⟩ := hname.eq_of_last hother hgap hc hd hbefore
          rw [List.append_nil]
          exact ⟨hform, hsame, rfl⟩

end

/-! ## Parameters and bodies -/

/-- Parameters and a body as they can stand in a definition. -/
structure IsContent (params body : List Char) : Prop where
  open_not_mem : '(' ∉ params
  close_not_mem : ')' ∉ params
  written : ∃ tokens statements, Lexes body tokens ∧ WritesBody tokens statements

theorem isWordPart_of_parseParams {params : String} {names : List String}
    (hparams : parseParams params = .ok names) {c : Char} (hmem : c ∈ params.toList)
    (hspace : Text.isSpace c = false) (hcomma : c ≠ ',') : isWordPart c = true := by
  have htrim := Text.mem_trim hmem hspace
  unfold parseParams at hparams
  split at hparams
  next hempty =>
    rw [hempty] at htrim
    cases htrim
  next text hne =>
    rw [mapM_eq_ok] at hparams
    obtain ⟨piece, hpiece, hc⟩ :=
      (@Text.exists_piece_iff _ (· == ',') _ c).mpr ⟨htrim, beq_eq_false_iff_ne.mpr hcomma⟩
    obtain ⟨name, -, hname⟩ := Text.exists_of_forall₂ hparams hpiece
    dsimp only at hname
    split at hname
    next hfree =>
      have hisName := isIdentifier_eq_true.mp (isFreeName_eq_true.mp hfree).1
      rw [String.toList_ofList] at hisName
      exact hisName.parts c (Text.mem_trim hc hspace)
    next => cases hname

theorem isContent_of_parseFunction {name params body : String} {function : Function}
    (hreads : parseFunction name params body = .ok function) :
    IsContent params.toList body.toList := by
  obtain ⟨-, hparams, hbody⟩ := parseFunction_eq_ok.mp hreads
  obtain ⟨tokens, hlexes, hwrites⟩ := parseBody_eq_ok.mp hbody
  have hparen : ∀ c, isWordPart c = false → Text.isSpace c = false → c ≠ ',' →
      c ∉ params.toList := by
    intro c hpart hspace hcomma hmem
    rw [isWordPart_of_parseParams hparams hmem hspace hcomma] at hpart
    cases hpart
  exact ⟨hparen '(' (by decide) (by decide) (by decide),
    hparen ')' (by decide) (by decide) (by decide), tokens, _, hlexes, hwrites⟩

theorem IsContent.brace_not_mem {params body : List Char} (hcontent : IsContent params body) :
    '}' ∉ body := by
  obtain ⟨tokens, statements, hlexes, hwrites⟩ := hcontent.written
  exact hwrites.brace_not_mem hlexes

/-! ## Passing over a definition -/

/-- A definition `function NAME(PARAMS){BODY}` without its last brace. -/
def declarationText (name params body : List Char) : List Char :=
  "function".toList ++ ' ' :: name ++ '(' :: (params ++ ')' :: '{' :: body)

/-- A definition `NAME=function(PARAMS){BODY}` without its last brace. -/
def assignmentText (name params body : List Char) : List Char :=
  name ++ '=' :: "function".toList ++ '(' :: (params ++ ')' :: '{' :: body)

/-- A definition `function NAME(PARAMS){BODY}`. -/
def declaration (name params body : String) : String :=
  "function " ++ name ++ "(" ++ params ++ ")\x7b" ++ body ++ "\x7d"

def Form.text (form : Form) (name params body : List Char) : List Char :=
  form.header name ++ '(' :: (params ++ ')' :: '{' :: body)

section

variable {name other params body back : List Char} {s : Char} {form : Form}

theorem Form.text_declared (name params body : List Char) :
    Form.declared.text name params body = declarationText name params body := rfl

theorem toList_declaration (name params body : String) :
    (declaration name params body).toList =
      declarationText name.toList params.toList body.toList ++ ['}'] := by
  unfold declaration declarationText
  simp

theorem Form.text_of_ne_declared (hform : form ≠ .declared) (name params body : List Char) :
    form.text name params body = form.lead ++ assignmentText name params body := by
  rw [text, header_of_ne_declared hform, assignmentText]
  simp only [List.append_assoc]

/-- No definition opens between the parentheses or the braces of another one. -/
theorem not_opens_inside (hname : IsName name) (hcontent : IsContent params body)
    (hback : back <:+ params ++ ')' :: '{' :: body) : ¬ Opens name back := by
  rcases suffix_append_cons hback with hbehind | ⟨tail, htail, rfl⟩
  · rcases List.suffix_cons_iff.mp hbehind with rfl | ⟨front, rfl⟩
    · exact not_opens_cons hname (by decide) (by decide)
    · obtain ⟨tokens, statements, hlexes, hwrites⟩ := hcontent.written
      exact not_opens_in_body hname hwrites hlexes
  · intro hopens
    have htail' := hopens.of_append hname (by decide) (by decide)
    exact hcontent.open_not_mem (htail.mem htail'.paren_mem)

theorem paren_not_mem_suffix_header (hs : IsSeparator s) (hother : IsName other)
    {head : List Char} (hhead : head <:+ s :: form.header other) : '(' ∉ head := by
  intro hparen
  rcases List.mem_cons.mp (hhead.mem hparen) with heq | hmem
  · exact hs.ne_paren heq.symm
  · exact paren_not_mem_of_isPlain (form.isPlain_header hother) hmem

/-- A definition declares at most the name that it defines, whatever stands in front. -/
theorem eq_of_opensDeclared (hs : IsSeparator s) (hname : IsName name) (hother : IsName other)
    (hcontent : IsContent params body)
    (hback : back <:+ s :: form.text other params body) (hopens : OpensDeclared name back) :
    form = .declared ∧ name = other := by
  rw [Form.text, ← List.cons_append] at hback
  rcases suffix_append_cons hback with hinside | ⟨head, hhead, rfl⟩
  · exact absurd (.inl hopens) (not_opens_inside hname hcontent hinside)
  · have hparen := paren_not_mem_suffix_header hs hother hhead
    exact eq_of_declared_suffix hs hname hother (hopens.isDeclaredOpening hname hparen) hhead

/-- A definition assigns at most to the name that it defines, and does so where the name
begins. -/
theorem eq_of_opensAssigned {c : Char} (hs : IsSeparator s) (hname : IsName name)
    (hother : IsName other) (hcontent : IsContent params body) (hc : joinsName c = false)
    (hback : c :: back <:+ s :: form.text other params body) (hopens : OpensAssigned name back) :
    form ≠ .declared ∧ name = other ∧ back = assignmentText name params body := by
  rw [Form.text, ← List.cons_append] at hback
  rcases suffix_append_cons hback with hinside | ⟨head, hhead, htext⟩
  · have hinside' := (List.suffix_cons c back).trans hinside
    exact absurd (.inr hopens) (not_opens_inside hname hcontent hinside')
  · cases head with
    | nil =>
        obtain ⟨-, rfl⟩ := List.cons.inj htext
        have hinside := List.suffix_refl (params ++ ')' :: '{' :: body)
        exact absurd (.inr hopens) (not_opens_inside hname hcontent hinside)
    | cons e head =>
        obtain ⟨rfl, rfl⟩ := List.cons.inj htext
        have hparen : '(' ∉ head := fun hmem =>
          paren_not_mem_suffix_header hs hother hhead (List.mem_cons_of_mem c hmem)
        have hopening := hopens.isAssignedOpening hname hparen
        obtain ⟨hform, hsame, rfl⟩ := eq_of_assigned_suffix hs hname hother hopening hc hhead
        exact ⟨hform, hsame, rfl⟩

/-- The search for a name passes over the definition of another one. -/
theorem laterDefinition?_of_other (hs : IsSeparator s) (hname : IsName name)
    (hother : IsName other) (hne : name ≠ other) (hcontent : IsContent params body)
    (rest : List Char) :
    laterDefinition? name (s :: form.text other params body ++ '}' :: rest) =
      laterDefinition? name ('}' :: rest) := by
  apply laterDefinition?_append
  intro back hback hnonempty
  apply definitionAt?_eq_none
  · intro hopens
    have hopens' := hopens.of_append hname (by decide) (by decide)
    exact hne (eq_of_opensDeclared hs hname hother hcontent hback hopens').2
  · intro c behind htext hc hopens
    cases back with
    | nil => contradiction
    | cons d back =>
        obtain ⟨rfl, rfl⟩ := List.cons.inj htext
        have hopens' := hopens.of_append hname (by decide) (by decide)
        exact hne (eq_of_opensAssigned hs hname hother hcontent hc hback hopens').2.1

/-! ## Finding a definition -/

theorem laterDefinition?_of_declared {text : List Char} {definition : Definition}
    (h : declared? name text = some definition) :
    laterDefinition? name text = some definition := by
  have hat : definitionAt? name text = some definition := by
    unfold definitionAt?
    rw [h]
    rfl
  cases text with
  | nil => exact hat
  | cons c rest =>
      rw [laterDefinition?, hat]
      rfl

/-- Behind a separator nothing is declared before the next place. -/
theorem laterDefinition?_separator (hs : IsSeparator s) (hname : IsName name)
    (text : List Char) :
    laterDefinition? name (s :: text) =
      (assigned? name text <|> laterDefinition? name text) := by
  have hnone : declared? name (s :: text) = none :=
    declared?_eq_none fun hopens => not_opens_cons hname hs.not_plain hs.ne_paren (.inl hopens)
  rw [laterDefinition?, definitionAt?, hnone]
  simp [hs.not_joins]

/-- A script is searched as if a separator stood in front of it. -/
theorem findDefinition?_eq_later {script name : String} (hs : IsSeparator s)
    (hname : isIdentifier name = true) :
    findDefinition? script name = laterDefinition? name.toList (s :: script.toList) := by
  have hisName := isIdentifier_eq_true.mp hname
  rw [findDefinition?, if_pos hname, laterDefinition?_separator hs hisName]
  dsimp only
  cases hdeclared : declared? name.toList script.toList with
  | none => rfl
  | some definition =>
      have hassigned : assigned? name.toList script.toList = none :=
        assigned?_eq_none ((declared?_opens hdeclared).not_opensAssigned hisName)
      rw [hassigned, laterDefinition?_of_declared hdeclared]
      rfl

section

variable {params body : String} (hcontent : IsContent params.toList body.toList)
  (rest : List Char)

include hcontent

theorem definitionTail?_of_compact :
    definitionTail? ('(' :: (params.toList ++ ')' :: '{' :: (body.toList ++ '}' :: rest))) =
      some ⟨params, body⟩ := by
  have htail := @definitionTail?_of_text [] [] params.toList body.toList rest isGap_nil isGap_nil
    hcontent.close_not_mem hcontent.brace_not_mem
  rwa [String.ofList_toList, String.ofList_toList] at htail

theorem declared?_declarationText (hname : IsName name) :
    declared? name (declarationText name params.toList body.toList ++ '}' :: rest) =
      some ⟨params, body⟩ := by
  have htext : declarationText name params.toList body.toList ++ '}' :: rest =
      "function".toList ++ ([' '] ++ (name ++
        ('(' :: (params.toList ++ ')' :: '{' :: (body.toList ++ '}' :: rest))))) := by
    unfold declarationText
    simp
  rw [htext, declared?_of_text hname isGap_space (List.cons_ne_nil ' ' [])]
  exact definitionTail?_of_compact hcontent rest

theorem assigned?_assignmentText (name : List Char) :
    assigned? name (assignmentText name params.toList body.toList ++ '}' :: rest) =
      some ⟨params, body⟩ := by
  have htext : assignmentText name params.toList body.toList ++ '}' :: rest =
      name ++ ([] ++ '=' :: ([] ++ ("function".toList ++
        ('(' :: (params.toList ++ ')' :: '{' :: (body.toList ++ '}' :: rest)))))) := by
    unfold assignmentText
    simp
  rw [htext, assigned?_of_text isGap_nil isGap_nil]
  exact definitionTail?_of_compact hcontent rest

end

section

variable {lead : List Char} {d : Char} (hs : IsSeparator s) (hname : IsName name)
  (hform : form ≠ .declared) (hcontent : IsContent params body)
  (hlead : s :: form.lead = lead ++ [d]) (rest : List Char)

include hform hlead

theorem text_eq_of_lead : s :: form.text name params body =
    lead ++ d :: assignmentText name params body := by
  rw [Form.text_of_ne_declared hform, ← List.cons_append, hlead, List.append_assoc,
    List.singleton_append]

theorem suffix_text_of_lead (hback : back <:+ lead) :
    back ++ d :: assignmentText name params body <:+ s :: form.text name params body := by
  obtain ⟨front, rfl⟩ := hback
  rw [text_eq_of_lead hform hlead, List.append_assoc]
  exact List.suffix_append front _

include hs hname hcontent

theorem not_opensDeclared_of_lead (hback : back <:+ lead) :
    ¬ OpensDeclared name ((back ++ d :: assignmentText name params body) ++ '}' :: rest) := by
  intro hopens
  have hopens' := hopens.of_append hname (by decide) (by decide)
  exact hform (eq_of_opensDeclared hs hname hname hcontent
    (suffix_text_of_lead hform hlead hback) hopens').1

theorem definitionAt?_of_lead (hback : back <:+ lead) (hne : back ≠ []) :
    definitionAt? name ((back ++ d :: assignmentText name params body) ++ '}' :: rest) = none := by
  apply definitionAt?_eq_none
    (not_opensDeclared_of_lead hs hname hform hcontent hlead rest hback)
  intro c others hsplit hc hopens
  cases back with
  | nil => contradiction
  | cons e back =>
      obtain ⟨rfl, rfl⟩ := List.cons.inj hsplit
      have hopens' := hopens.of_append hname (by decide) (by decide)
      obtain ⟨-, -, hplace⟩ := eq_of_opensAssigned hs hname hname hcontent hc
        (suffix_text_of_lead hform hlead hback) hopens'
      -- The assignment would begin at two places.
      have hlength : (back ++ d :: assignmentText name params body).length =
          (assignmentText name params body).length := congrArg List.length hplace
      rw [List.length_append, List.length_cons] at hlength
      omega

/-- In front of the name that is assigned to, no definition begins. -/
theorem laterDefinition?_of_lead (hd : joinsName d = false) :
    laterDefinition? name (s :: form.text name params body ++ '}' :: rest) =
      (assigned? name (assignmentText name params body ++ '}' :: rest) <|>
        laterDefinition? name (assignmentText name params body ++ '}' :: rest)) := by
  have hpass : laterDefinition? name
      (lead ++ (d :: assignmentText name params body ++ '}' :: rest)) =
        laterDefinition? name (d :: assignmentText name params body ++ '}' :: rest) := by
    apply laterDefinition?_append
    intro back hback hne
    rw [← List.append_assoc]
    exact definitionAt?_of_lead hs hname hform hcontent hlead rest hback hne
  have hnone : declared? name (d :: (assignmentText name params body ++ '}' :: rest)) = none :=
    declared?_eq_none
      (not_opensDeclared_of_lead hs hname hform hcontent hlead rest List.nil_suffix)
  rw [text_eq_of_lead hform hlead, List.append_assoc, hpass, List.cons_append, laterDefinition?,
    definitionAt?, hnone]
  simp [hd]

end

/-- Behind a separator the definition of a name is found. -/
theorem laterDefinition?_of_own {params body : String} (hs : IsSeparator s) (hname : IsName name)
    (form : Form) (hcontent : IsContent params.toList body.toList) (rest : List Char) :
    laterDefinition? name (s :: form.text name params.toList body.toList ++ '}' :: rest) =
      some ⟨params, body⟩ := by
  by_cases hform : form = .declared
  · have hdeclared := declared?_declarationText hcontent rest hname
    have hassigned := assigned?_eq_none ((declared?_opens hdeclared).not_opensAssigned hname)
    rw [hform, Form.text_declared, List.cons_append, laterDefinition?_separator hs hname,
      hassigned, laterDefinition?_of_declared hdeclared]
    rfl
  · obtain ⟨lead, d, hlead, hd⟩ := form.lead_boundary hs
    rw [laterDefinition?_of_lead hs hname hform hcontent hlead rest hd,
      assigned?_assignmentText hcontent rest]
    rfl

end

end StreamLinks.Cipher
