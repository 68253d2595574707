import StreamLinks.Proofs.Text.Pieces
import StreamLinks.Proofs.Text.Trimming
import StreamLinks.Url.Basic

/-!
# The parts of a URL

A URL is read from left to right: what is left out, the scheme, the host, the path and the
query.  Each of these stages stops at a question mark, so text behind a question mark changes
no part but the query.
-/

namespace StreamLinks

/-! ## Text that is left out -/

/-- The character is left out of URLs. -/
def isDropped (c : Char) : Bool :=
  c == '\t' || c == '\n' || c == '\r'

theorem cleaned_eq (text : List Char) :
    Url.cleaned text = (Text.dropEndWhile (fun c => c.toNat ≤ 0x20)
      (text.dropWhile fun c => c.toNat ≤ 0x20)).filter fun c => !isDropped c := by
  rw [Url.cleaned]
  congr 1
  funext c
  simp [isDropped, bne, Bool.and_assoc]

theorem cleaned_of_ends {first last : Char} (hfirst : 0x20 < first.toNat)
    (hlast : 0x20 < last.toNat) (middle : List Char) :
    Url.cleaned (first :: (middle ++ [last])) =
      (first :: (middle ++ [last])).filter fun c => !isDropped c := by
  have hfront : (decide (first.toNat ≤ 0x20)) = false := decide_eq_false (by omega)
  have hback : (decide (last.toNat ≤ 0x20)) = false := decide_eq_false (by omega)
  rw [cleaned_eq, List.dropWhile_cons_of_neg (by simp [hfront]), ← List.cons_append,
    Text.dropEndWhile_concat hback]

theorem isDropped_of_le {c : Char} (hc : 0x20 ≤ c.toNat) : isDropped c = false := by
  cases hdropped : isDropped c with
  | false => rfl
  | true =>
      simp only [isDropped, Bool.or_eq_true, beq_iff_eq] at hdropped
      rcases hdropped with (rfl | rfl) | rfl <;> exact absurd hc (by decide)

/-- There is no fragment, or it starts as one. -/
def IsFragment (text : List Char) : Prop :=
  ∀ c, text.head? = some c → c = '#'

theorem IsFragment.cases {text : List Char} (hfragment : IsFragment text) :
    text = [] ∨ ∃ rest, text = '#' :: rest := by
  cases text with
  | nil => exact .inl rfl
  | cons c rest => exact .inr ⟨rest, by rw [hfragment c rfl]⟩

theorem IsFragment.dropEndWhile {p : Char → Bool} {text : List Char}
    (hfragment : IsFragment text) (hp : p '#' = false) : IsFragment (Text.dropEndWhile p text) := by
  rcases hfragment.cases with rfl | ⟨rest, rfl⟩
  · exact hfragment
  · rw [Text.dropEndWhile_cons hp]
    intro c hc
    exact (Option.some.inj hc).symm

theorem IsFragment.filter {text : List Char} (hfragment : IsFragment text) :
    IsFragment (text.filter fun c => !isDropped c) := by
  rcases hfragment.cases with rfl | ⟨rest, rfl⟩
  · exact hfragment
  · rw [List.filter_cons_of_pos (by decide)]
    intro c hc
    exact (Option.some.inj hc).symm

/-- Nothing in front of the fragment is left out if all of it is visible. -/
theorem cleaned_append {front fragment : List Char} (hfront : ∀ c ∈ front, 0x20 < c.toNat)
    (hfragment : IsFragment fragment) :
    Url.cleaned (front ++ fragment) = front ++
      (Text.dropEndWhile (fun c => c.toNat ≤ 0x20) fragment).filter fun c => !isDropped c := by
  have hmargin : ∀ c ∈ front, decide (c.toNat ≤ 0x20) = false := fun c hc =>
    decide_eq_false (by have := hfront c hc; omega)
  have hstart : (front ++ fragment).dropWhile (fun c => c.toNat ≤ 0x20) = front ++ fragment := by
    rw [List.dropWhile_eq_self_iff]
    intro hpos
    cases front with
    | nil =>
        rcases hfragment.cases with rfl | ⟨rest, rfl⟩
        · exact absurd hpos (by decide)
        · exact of_decide_eq_false rfl
    | cons c front => simpa using hmargin c List.mem_cons_self
  have hkept : (front.filter fun c => !isDropped c) = front := by
    apply List.filter_eq_self.mpr
    intro c hc
    rw [isDropped_of_le (hfront c hc).le, Bool.not_false]
  rw [cleaned_eq, hstart, Text.dropEndWhile_append_of_neg hmargin, List.filter_append, hkept]

theorem cleaned_visible {text : List Char} (htext : ∀ c ∈ text, 0x20 < c.toNat) :
    Url.cleaned text = text := by
  have hnil : IsFragment [] := by simp [IsFragment]
  have hcleaned := cleaned_append htext hnil
  have hnone : (Text.dropEndWhile (fun c => c.toNat ≤ 0x20) []).filter (!isDropped ·) = [] := rfl
  rwa [hnone, List.append_nil] at hcleaned

theorem exists_cleaned {front fragment : List Char} (hfront : ∀ c ∈ front, 0x20 < c.toNat)
    (hfragment : IsFragment fragment) :
    ∃ fragment', IsFragment fragment' ∧
      Url.cleaned (front ++ fragment) = front ++ fragment' :=
  ⟨_, (hfragment.dropEndWhile (by decide)).filter, cleaned_append hfront hfragment⟩

namespace Url

open Text (IsRun)

variable {toAscii? : ToAscii}

/-! ## Stages of reading -/

/-- The URL that a scheme, a host and the text behind them make. -/
def assembled (scheme : String) (host : Option Host) (rest : List Char) : Url :=
  let rest := rest.takeWhile (· != '#')
  let path := pathOf (styleOf scheme) host (rest.takeWhile (· != '?'))
  { scheme
    host := if styleOf scheme = .file ∧ startsWithDrive path then none else host
    path
    query :=
      match rest.dropWhile (· != '?') with
      | [] => none
      | _ :: query => some query }

theorem parse?_eq (text : List Char) :
    parse? (String.ofList text) toAscii? = (splitScheme? (cleaned text)).bind fun found =>
      (hostAndRest? toAscii? (styleOf found.1) found.2).map fun parts =>
        assembled found.1 parts.1 parts.2 := by
  rw [parse?, String.toList_ofList]
  cases splitScheme? (cleaned text) with
  | none => rfl
  | some found =>
      simp only [Option.bind_eq_bind, Option.bind_some]
      cases hostAndRest? toAscii? (styleOf found.1) found.2 with
      | none => rfl
      | some parts => rfl

/-! ## Schemes -/

def isSchemeChar (c : Char) : Bool :=
  c.isAlphanum || c == '+' || c == '-' || c == '.'

theorem splitScheme?_eq (text : List Char) :
    splitScheme? text = match text.dropWhile isSchemeChar with
      | ':' :: rest =>
          if text.head?.any Char.isAlpha then
            some (Text.lowerAscii (String.ofList (text.takeWhile isSchemeChar)), rest)
          else none
      | _ => none := rfl

theorem splitScheme?_of_run {name rest : List Char} (hname : IsRun isSchemeChar name (':' :: rest))
    (halpha : name.head?.any Char.isAlpha = true) :
    splitScheme? (name ++ ':' :: rest) = some (Text.lowerAscii (String.ofList name), rest) := by
  have hhead : (name ++ ':' :: rest).head?.any Char.isAlpha = true := by
    cases name with
    | nil => cases halpha
    | cons c name => exact halpha
  rw [splitScheme?_eq, hname.dropWhile_eq, hname.takeWhile_eq]
  exact if_pos hhead

/-! ## URLs of the web -/

theorem hostAndRest?_web {slashes server path : List Char} {host : Option Host}
    (hslashes : IsRun (isSlash true) slashes (server ++ path))
    (hserver : IsRun (fun c => !endsAuthority true c) server path)
    (hhost : authorityHost? toAscii? true (!path.isEmpty) server = some host) :
    hostAndRest? toAscii? .web (slashes ++ (server ++ path)) = some (host, path) := by
  have hauthority : hostAndRest? toAscii? .web (slashes ++ (server ++ path)) =
      let text := (slashes ++ (server ++ path)).dropWhile (isSlash true)
      let rest := text.dropWhile fun c => !endsAuthority true c
      (authorityHost? toAscii? true (!rest.isEmpty)
        (text.takeWhile fun c => !endsAuthority true c)).bind
          fun host => some (host, rest) := rfl
  rw [hauthority, hslashes.dropWhile_eq]
  dsimp only
  rw [hserver.dropWhile_eq, hserver.takeWhile_eq, hhost]
  rfl

/-- A URL with a scheme of the web has the host that its authority tells, and the query
that stands between the first question mark of its path and the first `#`. -/
theorem parse?_web {text name slashes server path : List Char} {scheme : String}
    {host : Option Host} (hcleaned : cleaned text = name ++ ':' :: (slashes ++ (server ++ path)))
    (hname : IsRun isSchemeChar name (':' :: (slashes ++ (server ++ path))))
    (halpha : name.head?.any Char.isAlpha = true)
    (hscheme : Text.lowerAscii (String.ofList name) = scheme) (hweb : styleOf scheme = .web)
    (hslashes : IsRun (isSlash true) slashes (server ++ path))
    (hserver : IsRun (fun c => !endsAuthority true c) server path)
    (hhost : authorityHost? toAscii? true (!path.isEmpty) server = some host) :
    ∃ url, parse? (String.ofList text) toAscii? = some url ∧ url.host = host ∧
      url.query = match (path.takeWhile (· != '#')).dropWhile (· != '?') with
        | [] => none
        | _ :: query => some query := by
  have hsplit := splitScheme?_of_run hname halpha
  have hfound := hostAndRest?_web hslashes hserver hhost
  rw [parse?_eq, hcleaned, hsplit, Option.bind_some, hscheme, hweb, hfound, Option.map_some]
  refine ⟨_, rfl, ?_, rfl⟩
  simp [assembled, hweb]

/-! ## Text behind a question mark -/

section

variable {text tail rest : List Char} {special : Bool} {style : Style} {scheme : String}
  {host : Host}

theorem splitScheme?_eq_some (hsplit : splitScheme? text = some (scheme, rest)) :
    ∃ name, text = name ++ ':' :: rest ∧ IsRun isSchemeChar name (':' :: rest) ∧
      name.head?.any Char.isAlpha = true ∧ Text.lowerAscii (String.ofList name) = scheme := by
  obtain ⟨name, others, rfl, hrun⟩ := IsRun.exists_append isSchemeChar text
  rw [splitScheme?_eq, hrun.dropWhile_eq, hrun.takeWhile_eq] at hsplit
  split at hsplit
  next others' =>
    split_ifs at hsplit with halpha
    obtain ⟨rfl, rfl⟩ : Text.lowerAscii (String.ofList name) = scheme ∧ others' = rest := by
      simpa using hsplit
    refine ⟨name, rfl, hrun, ?_, rfl⟩
    cases name with
    | nil => cases halpha
    | cons c name => exact halpha
  next => cases hsplit

theorem splitScheme?_append (hsplit : splitScheme? text = some (scheme, rest)) (tail : List Char) :
    splitScheme? (text ++ tail) = some (scheme, rest ++ tail) := by
  obtain ⟨name, rfl, hrun, halpha, rfl⟩ := splitScheme?_eq_some hsplit
  rw [List.append_assoc, List.cons_append]
  exact splitScheme?_of_run (hrun.of_head fun _ hc => hc) halpha

theorem suffix_of_splitScheme? (hsplit : splitScheme? text = some (scheme, rest)) :
    rest <:+ text := by
  obtain ⟨name, rfl, -⟩ := splitScheme?_eq_some hsplit
  exact (List.suffix_cons ':' rest).trans (List.suffix_append name _)

/-- The host and the rest of a text that starts with an authority. -/
def authorityAndRest? (toAscii? : ToAscii) (special : Bool) (text : List Char) :
    Option (Option Host × List Char) :=
  let rest := text.dropWhile fun c => !endsAuthority special c
  (authorityHost? toAscii? special (!rest.isEmpty)
    (text.takeWhile fun c => !endsAuthority special c)).map fun host => (host, rest)

/-- What stands behind an authority only matters if it tells no host. -/
theorem authorityHost?_eq {more : Bool} {authority : List Char}
    (hhost : authorityHost? toAscii? special more authority = some (some host)) (more' : Bool) :
    authorityHost? toAscii? special more' authority = some (some host) := by
  unfold authorityHost? at hhost ⊢
  generalize splitUserinfo authority = parts at hhost ⊢
  obtain ⟨userinfo, server⟩ := parts
  dsimp only at hhost ⊢
  by_cases hempty : userinfo = some [] ∧ server = []
  · obtain ⟨rfl, rfl⟩ := hempty
    cases special <;> cases more <;> simp [splitPort, isPort, Text.natOfDigits] at hhost
  · have hnot : ∀ more : Bool, ¬ (userinfo = some [] ∧ server = [] ∧ more = true) :=
      fun _ h => hempty ⟨h.1, h.2.1⟩
    rw [if_neg (hnot more)] at hhost
    rwa [if_neg (hnot more')]

theorem isSlash_question (special : Bool) : isSlash special '?' = false := by
  cases special <;> decide

theorem endsAuthority_question (special : Bool) : endsAuthority special '?' = true := by
  cases special <;> decide

theorem authorityAndRest?_append
    (hparts : authorityAndRest? toAscii? special text = some (some host, rest))
    (tail : List Char) :
    authorityAndRest? toAscii? special (text ++ '?' :: tail) =
      some (some host, rest ++ '?' :: tail) := by
  have hstops := Text.stops_of_cons (p := (!endsAuthority special ·))
    (by rw [endsAuthority_question, Bool.not_true]) tail
  obtain ⟨host', hhost, hrest⟩ := Option.map_eq_some_iff.mp hparts
  obtain ⟨rfl, rfl⟩ := Prod.mk.inj hrest
  rw [authorityAndRest?, Text.dropWhile_append_stop hstops, Text.takeWhile_append_stop hstops]
  rw [authorityHost?_eq hhost, Option.map_some]

theorem suffix_of_authorityAndRest? {found : Option Host}
    (hparts : authorityAndRest? toAscii? special text = some (found, rest)) : rest <:+ text := by
  obtain ⟨host', -, hrest⟩ := Option.map_eq_some_iff.mp hparts
  obtain ⟨-, rfl⟩ := Prod.mk.inj hrest
  exact List.dropWhile_suffix _

theorem hostAndRest?_web_eq (text : List Char) :
    hostAndRest? toAscii? .web text =
      authorityAndRest? toAscii? true (text.dropWhile (isSlash true)) := by
  unfold authorityAndRest?
  simp only [Option.map_eq_bind]
  rfl

theorem hostAndRest?_other_eq (text : List Char) :
    hostAndRest? toAscii? .other text = match Text.after? ['/', '/'] text with
      | some text => authorityAndRest? toAscii? false text
      | none => some (none, text) := by
  unfold hostAndRest? authorityAndRest?
  simp only [Option.map_eq_bind]
  rfl

/-- Behind the slashes of a file URL a host is read up to the path, unless it is a drive. -/
theorem fileHost?_eq_some (hparts : fileHost? toAscii? text = some (some host, rest)) :
    ∃ first second behind, text = first :: second :: behind ∧
      (isSlash true first && isSlash true second) = true ∧
      ¬ ((behind.takeWhile (! endsAuthority true ·)).isEmpty = true ∨
        isDriveLetter (behind.takeWhile (! endsAuthority true ·)) = true) ∧
      Host.parse? toAscii? (behind.takeWhile (! endsAuthority true ·)) = some host ∧
      host ≠ .domain "localhost" ∧ rest = behind.dropWhile (! endsAuthority true ·) := by
  unfold fileHost? at hparts
  split at hparts
  next first second behind =>
    by_cases hslashes : (isSlash true first && isSlash true second) = true
    · rw [if_pos hslashes] at hparts
      dsimp only at hparts
      split at hparts
      next => simp at hparts
      next hname =>
        obtain ⟨host', hhost, hfound⟩ := Option.bind_eq_some_iff.mp hparts
        obtain ⟨hkept, rfl⟩ := Prod.mk.inj (Option.some.inj hfound)
        split_ifs at hkept with hlocal
        obtain rfl := Option.some.inj hkept
        exact ⟨first, second, behind, rfl, hslashes, hname, hhost, hlocal, rfl⟩
    · rw [if_neg hslashes] at hparts
      simp at hparts
  next => simp at hparts

theorem fileHost?_append (hparts : fileHost? toAscii? text = some (some host, rest))
    (tail : List Char) :
    fileHost? toAscii? (text ++ '?' :: tail) = some (some host, rest ++ '?' :: tail) := by
  obtain ⟨first, second, behind, rfl, hslashes, hname, hhost, hlocal, rfl⟩ :=
    fileHost?_eq_some hparts
  have hstops := Text.stops_of_cons (p := (! endsAuthority true ·)) (c := '?') (by decide) tail
  rw [List.cons_append, List.cons_append, fileHost?, if_pos hslashes,
    Text.takeWhile_append_stop hstops, Text.dropWhile_append_stop hstops, if_neg hname, hhost]
  simp [hlocal]

theorem hostAndRest?_append (hparts : hostAndRest? toAscii? style text = some (some host, rest))
    (tail : List Char) :
    hostAndRest? toAscii? style (text ++ '?' :: tail) = some (some host, rest ++ '?' :: tail) := by
  cases style with
  | web =>
      rw [hostAndRest?_web_eq] at hparts ⊢
      rw [Text.dropWhile_append_stop (Text.stops_of_cons (isSlash_question true) tail)]
      exact authorityAndRest?_append hparts tail
  | other =>
      rw [hostAndRest?_other_eq] at hparts ⊢
      cases hafter : Text.after? ['/', '/'] text with
      | none =>
          rw [hafter] at hparts
          cases hparts
      | some behind =>
          rw [hafter] at hparts
          rw [Text.after?_eq_some] at hafter
          have hafter' : Text.after? ['/', '/'] (text ++ '?' :: tail) =
              some (behind ++ '?' :: tail) :=
            Text.after?_eq_some.mpr (by rw [hafter, List.append_assoc])
          rw [hafter']
          exact authorityAndRest?_append hparts tail
  | file => exact fileHost?_append hparts tail

theorem suffix_of_hostAndRest?
    (hparts : hostAndRest? toAscii? style text = some (some host, rest)) :
    rest <:+ text := by
  cases style with
  | web =>
      rw [hostAndRest?_web_eq] at hparts
      exact (suffix_of_authorityAndRest? hparts).trans (List.dropWhile_suffix _)
  | other =>
      rw [hostAndRest?_other_eq] at hparts
      cases hafter : Text.after? ['/', '/'] text with
      | none =>
          rw [hafter] at hparts
          cases hparts
      | some behind =>
          rw [hafter] at hparts
          rw [Text.after?_eq_some] at hafter
          rw [hafter]
          exact (suffix_of_authorityAndRest? hparts).trans (List.suffix_append _ _)
  | file =>
      obtain ⟨first, second, behind, rfl, -, -, -, -, rfl⟩ := fileHost?_eq_some hparts
      exact (List.dropWhile_suffix _).trans (List.suffix_append [first, second] behind)

theorem assembled_append {found : Option Host} {query fragment : List Char} (hrest : '#' ∉ rest)
    (hquestion : '?' ∉ rest) (hquery : '#' ∉ query) (hfragment : IsFragment fragment) :
    assembled scheme found (rest ++ '?' :: (query ++ fragment)) =
      { assembled scheme found rest with query := some query } := by
  have hnot : ∀ {text : List Char} {mark : Char}, mark ∉ text → ∀ c ∈ text, (c != mark) = true :=
    fun hmark c hc => bne_iff_ne.mpr fun h => hmark (h ▸ hc)
  have hstops : ∀ c, fragment.head? = some c → (c != '#') = false := by
    intro c hc
    rw [hfragment c hc]
    decide
  have hfront : (rest ++ '?' :: (query ++ fragment)).takeWhile (· != '#') =
      rest ++ '?' :: query := by
    rw [← List.cons_append, ← List.append_assoc, Text.takeWhile_append_stop hstops,
      List.takeWhile_eq_self_iff]
    exact hnot (by simp [hrest, hquery])
  have hpath : IsRun (· != '?') rest ('?' :: query) := .of_next (hnot hquestion) (by decide) query
  have halone : rest.takeWhile (· != '#') = rest := List.takeWhile_eq_self_iff.mpr (hnot hrest)
  have hwhole : rest.takeWhile (· != '?') = rest := List.takeWhile_eq_self_iff.mpr (hnot hquestion)
  rw [assembled, hfront]
  dsimp only
  rw [hpath.takeWhile_eq, hpath.dropWhile_eq, assembled, halone, hwhole]

/-- A visible text without a question mark or a fragment. -/
def IsBare (text : List Char) : Prop :=
  ∀ c ∈ text, 0x20 < c.toNat ∧ c ≠ '?' ∧ c ≠ '#'

/-- A query and a fragment behind the URL of a host change nothing but its query. -/
theorem parse?_append_query {address query fragment : List Char} {url : Url}
    (hurl : parse? (String.ofList address) toAscii? = some url) (hhost : url.host.isSome = true)
    (haddress : IsBare address) (hquery : ∀ c ∈ query, 0x20 < c.toNat ∧ c ≠ '#')
    (hfragment : IsFragment fragment) :
    parse? (String.ofList (address ++ '?' :: (query ++ fragment))) toAscii? =
      some { url with query := some query } := by
  have hclean : cleaned address = address := cleaned_visible fun c hc => (haddress c hc).1
  have hfront : ∀ c ∈ address ++ '?' :: query, 0x20 < c.toNat := by
    intro c hc
    rcases List.mem_append.mp hc with hc | hc
    · exact (haddress c hc).1
    · rcases List.mem_cons.mp hc with rfl | hc
      · decide
      · exact (hquery c hc).1
  obtain ⟨fragment', hfragment', hcleaned⟩ := exists_cleaned hfront hfragment
  rw [List.append_assoc, List.cons_append, List.append_assoc, List.cons_append] at hcleaned
  rw [parse?_eq, hclean] at hurl
  obtain ⟨⟨scheme, behind⟩, hsplit, hfound⟩ := Option.bind_eq_some_iff.mp hurl
  obtain ⟨⟨found, rest⟩, hparts, rfl⟩ := Option.map_eq_some_iff.mp hfound
  dsimp only at hparts
  obtain ⟨host, rfl⟩ : ∃ host, found = some host := by
    rw [assembled] at hhost
    dsimp only at hhost
    split at hhost
    · cases hhost
    · exact Option.isSome_iff_exists.mp hhost
  -- What is left behind the host is a part of the address, so it has no query of its own.
  have hbare : IsBare rest := fun c hc => haddress c
    (((suffix_of_hostAndRest? hparts).trans (suffix_of_splitScheme? hsplit)).subset hc)
  rw [parse?_eq, hcleaned, splitScheme?_append hsplit, Option.bind_some,
    hostAndRest?_append hparts, Option.map_some]
  exact congrArg some (assembled_append (fun h => (hbare '#' h).2.2 rfl)
    (fun h => (hbare '?' h).2.1 rfl) (fun h => (hquery '#' h).2 rfl) hfragment')

end

end Url

end StreamLinks
