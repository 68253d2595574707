import StreamLinks.Proofs.Text.Integer
import StreamLinks.Proofs.Url.Domains
import StreamLinks.Proofs.Url.Parts
import StreamLinks.Proofs.Verbatim

/-!
# Hosts and the texts that write them

The text of a host holds none of the marks that end the host in a URL or that stand for
something else there.  A host between the slashes and the path of a URL is read from the
text that stands there, up to a port; and it is only read if there is no white space around
that text.
-/

namespace StreamLinks.Url

variable {toAscii? : ToAscii} {text authority : List Char} {host : Host} {c : Char}

/-- The characters that end a host, stand in front of it, or escape a part of it. -/
def hostMarks : List Char :=
  ['/', '\\', '?', '#', '@', '%']

/-- The text has none of the marks around hosts. -/
def IsUnmarked (text : List Char) : Prop :=
  ∀ c ∈ text, c ∉ hostMarks

/-! ## Addresses -/

theorem ipv4Text_eq (address : Nat) :
    ∃ first rest, (ipv4Text address).toList = (toString (first : Nat)).toList ++ rest ∧
      ∀ c ∈ rest, c.isDigit = true ∨ c = '.' := by
  refine ⟨address / Nat.pow 256 3 % 256, '.' :: ['.'].intercalate
    ([2, 1, 0].map fun place => (toString (address / Nat.pow 256 place % 256)).toList), ?_, ?_⟩
  · rw [ipv4Text, String.toList_intercalate]
    rfl
  · rw [List.forall_mem_cons]
    refine ⟨.inr rfl, fun c hc => ?_⟩
    rcases Text.mem_of_mem_intercalate hc with rfl | ⟨digits, hdigits, hc⟩
    · exact .inr rfl
    · obtain ⟨place, -, rfl⟩ := List.mem_map.mp hdigits
      exact .inl (Text.isDigit_of_mem_toString hc)

/-- The characters of addresses. -/
def isAddressChar (c : Char) : Bool :=
  c.isDigit || (Text.hexValue? c).isSome || c == '.' || c == ':' || c == '[' || c == ']'

theorem isAddressChar_of_mem_ipv4Text {address : Nat} (hc : c ∈ (ipv4Text address).toList) :
    isAddressChar c = true := by
  obtain ⟨first, rest, htext, hrest⟩ := ipv4Text_eq address
  have hkind : c.isDigit = true ∨ c = '.' := by
    rw [htext] at hc
    rcases List.mem_append.mp hc with hdigit | hc
    · exact .inl (Text.isDigit_of_mem_toString hdigit)
    · exact hrest c hc
  rcases hkind with hdigit | rfl
  · simp [isAddressChar, hdigit]
  · decide

theorem head?_ipv4Text (address : Nat) : (ipv4Text address).toList.head? ≠ some '.' := by
  obtain ⟨first, rest, htext, -⟩ := ipv4Text_eq address
  intro hdot
  have hne : (toString first).toList ≠ [] := by simp
  rw [htext, List.head?_append_of_ne_nil _ hne] at hdot
  exact absurd (Text.isDigit_of_mem_toString (List.mem_of_head? hdot)) (by decide)

theorem isSome_hexValue?_digitChar {digit : Nat} (hdigit : digit < 16) :
    (Text.hexValue? digit.digitChar).isSome = true := by
  revert digit
  decide

theorem isSome_hexValue?_of_mem {n : Nat} (hc : c ∈ Nat.toDigits 16 n) :
    (Text.hexValue? c).isSome = true := by
  induction n using Nat.strong_induction_on with
  | _ n ih =>
      by_cases hn : n < 16
      · rw [Nat.toDigits_of_lt_base hn, List.mem_singleton] at hc
        exact hc ▸ isSome_hexValue?_digitChar hn
      · rw [Nat.toDigits_of_base_le (by decide) (by omega)] at hc
        rcases List.mem_append.mp hc with hc | hc
        · exact ih (n / 16) (by omega) hc
        · rw [List.mem_singleton] at hc
          exact hc ▸ isSome_hexValue?_digitChar (Nat.mod_lt n (by decide))

theorem mem_piecesText {pieces : List Nat} (hc : c ∈ (piecesText pieces).toList) :
    c = ':' ∨ (Text.hexValue? c).isSome = true := by
  rw [piecesText, String.toList_intercalate] at hc
  rcases Text.mem_of_mem_intercalate hc with hcolon | ⟨digits, hdigits, hc⟩
  · exact .inl hcolon
  · rw [List.map_map] at hdigits
    obtain ⟨piece, -, rfl⟩ := List.mem_map.mp hdigits
    rw [Function.comp_apply, String.toList_ofList] at hc
    exact .inr (isSome_hexValue?_of_mem hc)

theorem mem_ipv6Text {pieces : List Nat} (hc : c ∈ (ipv6Text pieces).toList) :
    c = ':' ∨ (Text.hexValue? c).isSome = true := by
  unfold ipv6Text at hc
  dsimp only at hc
  split at hc
  next => exact mem_piecesText hc
  next =>
    rw [String.toList_append, String.toList_append] at hc
    rcases List.mem_append.mp hc with hc | hc
    · rcases List.mem_append.mp hc with hc | hc
      · exact mem_piecesText hc
      · exact .inl (by simpa using hc)
    · exact mem_piecesText hc

theorem isAddressChar_of_mem_ipv6 {pieces : List Nat} (hc : c ∈ (Host.ipv6 pieces).text.toList) :
    isAddressChar c = true := by
  have hwhole : (Host.ipv6 pieces).text.toList = '[' :: ((ipv6Text pieces).toList ++ [']']) := by
    simp [Host.text]
  rw [hwhole] at hc
  simp only [List.mem_cons, List.mem_append, List.not_mem_nil, or_false] at hc
  rcases hc with rfl | hinner | rfl
  · decide
  · rcases mem_ipv6Text hinner with rfl | hsome
    · decide
    · simp [isAddressChar, hsome]
  · decide

/-! ## Hosts -/

/-- A host is an address in brackets, or comes from the ASCII form of what the text stands
for. -/
theorem Host.parse?_eq_some (hhost : Host.parse? toAscii? text = some host) :
    (text.head? = some '[' ∧ text.getLast? = some ']' ∧ ∃ pieces, host = .ipv6 pieces) ∨
      text.head? ≠ some '[' ∧ ∃ decoded name,
        Text.decode? (Text.percentBytes text) = some decoded ∧
          toAscii? isForbiddenInDomain decoded.toList = some name ∧ name ≠ [] ∧
          ((∃ address, host = .ipv4 address) ∨ host = .domain (String.ofList name)) := by
  unfold Host.parse? at hhost
  split at hhost
  next hbracket =>
    unfold Host.bracketed? at hhost
    split at hhost
    next hclosed =>
      obtain ⟨pieces, -, rfl⟩ := Option.map_eq_some_iff.mp hhost
      exact .inl ⟨hbracket, hclosed, pieces, rfl⟩
    next => cases hhost
  next hbracket =>
    obtain ⟨decoded, hdecoded, hhost⟩ := Option.bind_eq_some_iff.mp hhost
    obtain ⟨name, hname, hhost⟩ := Option.bind_eq_some_iff.mp hhost
    refine .inr ⟨hbracket, decoded, name, hdecoded, hname, ?_⟩
    split at hhost
    next => cases hhost
    next hne =>
      refine ⟨fun hnil => hne (by rw [hnil]; rfl), ?_⟩
      split at hhost
      next =>
        obtain ⟨address, -, rfl⟩ := Option.map_eq_some_iff.mp hhost
        exact .inl ⟨address, rfl⟩
      next =>
        cases hhost
        exact .inr rfl

theorem isUnmarked_text (hlawful : toAscii?.IsLawful)
    (hhost : Host.parse? toAscii? text = some host) : IsUnmarked host.text.toList := by
  intro c hc hmark
  have hall : hostMarks.all (fun c => !isAddressChar c && isForbiddenInDomain c) = true := by decide
  have hfacts := List.all_eq_true.mp hall c hmark
  rw [Bool.and_eq_true, Bool.not_eq_true'] at hfacts
  obtain ⟨hforeign, hforbidden⟩ := hfacts
  rcases Host.parse?_eq_some hhost with
    ⟨-, -, pieces, rfl⟩ | ⟨-, decoded, name, -, hname, -, ⟨address, rfl⟩ | rfl⟩
  · rw [isAddressChar_of_mem_ipv6 hc] at hforeign
    cases hforeign
  · rw [isAddressChar_of_mem_ipv4Text hc] at hforeign
    cases hforeign
  · rw [Host.text, String.toList_ofList] at hc
    rw [(hlawful.unrefused hname).2 c hc] at hforbidden
    cases hforbidden

/-- Without escapes a text stands for itself. -/
theorem decode?_percentBytes (hpercent : '%' ∉ text) :
    Text.decode? (Text.percentBytes text) = some (String.ofList text) := by
  rw [Text.percentBytes,
    Query.percentBytesFrom_of_no_escape (Query.not_hasEscape_of_not_mem hpercent)]
  simpa using Query.decode?_utf8 (String.ofList text)

theorem percent_not_mem (hunmarked : IsUnmarked text) : '%' ∉ text :=
  fun hmem => hunmarked '%' hmem (by decide)

/-- Without marks a host is an address in brackets, or comes from the ASCII form of its text. -/
theorem Host.exists_name_of_parse? (hunmarked : IsUnmarked text)
    (hhost : Host.parse? toAscii? text = some host) :
    (text.head? = some '[' ∧ text.getLast? = some ']' ∧ ∃ pieces, host = .ipv6 pieces) ∨
      ∃ name, toAscii? isForbiddenInDomain text = some name ∧ name ≠ [] ∧
        ((∃ address, host = .ipv4 address) ∨ host = .domain (String.ofList name)) := by
  rcases Host.parse?_eq_some hhost with
    hbrackets | ⟨-, decoded, name, hdecoded, hname, hne, hkind⟩
  · exact .inl hbrackets
  · rw [decode?_percentBytes (percent_not_mem hunmarked), Option.some.injEq] at hdecoded
    rw [← hdecoded, String.toList_ofList] at hname
    exact .inr ⟨name, hname, hne, hkind⟩

/-! ## Ports -/

theorem splitPort_append (inBrackets : Bool) (text : List Char) :
    (splitPort inBrackets text).1 ++ (splitPort inBrackets text).2 = text ∧
      ∀ c, (splitPort inBrackets text).2.head? = some c → c = ':' := by
  induction text generalizing inBrackets with
  | nil => simp [splitPort]
  | cons c text ih =>
      unfold splitPort
      split
      next hcolon => exact ⟨rfl, fun d hd => (Option.some.inj hd).symm.trans hcolon.1⟩
      next =>
        obtain ⟨hwhole, hhead⟩ :=
          ih (if c = '[' then true else if c = ']' then false else inBrackets)
        exact ⟨by rw [List.cons_append, hwhole], hhead⟩

/-- A port with its colon, or none. -/
def IsPortText (port : List Char) : Prop :=
  port = [] ∨ ∃ digits, port = ':' :: digits ∧ ∀ c ∈ digits, c.isDigit = true

/-- A special URL has a host: what stands behind the user and in front of the port. -/
theorem authorityHost?_eq_some {more : Bool} {found : Option Host}
    (hhost : authorityHost? toAscii? true more authority = some found) :
    ∃ text port host, splitPort false (splitUserinfo authority).2 = (text, port) ∧
      isPort (port.drop 1) = true ∧ text ≠ [] ∧ Host.parse? toAscii? text = some host ∧
      found = some host := by
  unfold authorityHost? at hhost
  generalize splitUserinfo authority = parts at hhost ⊢
  obtain ⟨userinfo, server⟩ := parts
  dsimp only at hhost ⊢
  generalize splitPort false server = cut at hhost ⊢
  obtain ⟨text, port⟩ := cut
  dsimp only at hhost
  split at hhost
  next => cases hhost
  next =>
    rw [if_pos rfl, if_pos rfl] at hhost
    split at hhost
    next => cases hhost
    next hport =>
      split at hhost
      next => cases hhost
      next htext =>
        obtain ⟨host, hparsed, rfl⟩ := Option.map_eq_some_iff.mp hhost
        exact ⟨text, port, host, rfl, by simpa using hport, by simpa using htext, hparsed, rfl⟩

/-- An authority without a user is a host in front of a port. -/
theorem exists_host_of_authority {more : Bool} {found : Option Host}
    (hunmarked : IsUnmarked authority)
    (hhost : authorityHost? toAscii? true more authority = some found) :
    ∃ text port host, authority = text ++ port ∧ IsPortText port ∧ text ≠ [] ∧
      Host.parse? toAscii? text = some host ∧ found = some host := by
  have huser : '@' ∉ authority := fun hmem => hunmarked '@' hmem (by decide)
  have hserver : splitUserinfo authority = (none, authority) := if_neg (by simpa using huser)
  obtain ⟨text, port, host, hcut, hport, htext, hparsed, hfound⟩ := authorityHost?_eq_some hhost
  rw [hserver] at hcut
  obtain ⟨hwhole, hhead⟩ := splitPort_append false authority
  rw [hcut] at hwhole hhead
  refine ⟨text, port, host, hwhole.symm, ?_, htext, hparsed, hfound⟩
  cases port with
  | nil => exact .inl rfl
  | cons c digits =>
      rw [isPort, Bool.and_eq_true, List.all_eq_true] at hport
      exact .inr ⟨digits, by rw [hhead c rfl], hport.1⟩

/-- A port shows in the ASCII form of the text in which it stands. -/
theorem IsPortText.eq_nil {port ascii : List Char} (hport : IsPortText port)
    (hlawful : toAscii?.IsLawful)
    (hascii : toAscii? (fun _ => false) (text ++ port) = some ascii)
    (hcolon : ':' ∉ ascii) : port = [] := by
  rcases hport with rfl | ⟨digits, rfl, -⟩
  · rfl
  · exact absurd (hlawful.delimiter hascii ':' (by decide) (by simp)) hcolon

/-- The ASCII form of what stands in the place of a host is not empty. -/
theorem ascii_ne_nil {more : Bool} {found : Option Host} {ascii : List Char}
    (hlawful : toAscii?.IsLawful) (hunmarked : IsUnmarked authority)
    (hhost : authorityHost? toAscii? true more authority = some found)
    (hascii : toAscii? (fun _ => false) authority = some ascii) : ascii ≠ [] := by
  rintro rfl
  obtain ⟨text, port, host, rfl, hport, -, hparsed, -⟩ := exists_host_of_authority hunmarked hhost
  obtain rfl := hport.eq_nil hlawful hascii List.not_mem_nil
  rw [List.append_nil] at hascii hunmarked
  rcases Host.exists_name_of_parse? hunmarked hparsed with
    ⟨hopening, -⟩ | ⟨name, hname, hne, -⟩
  · cases hlawful.delimiter hascii '[' (by decide) (List.mem_of_head? hopening)
  · rw [(hlawful.unrefused hname).1, Option.some.injEq] at hascii
    exact hne hascii

/-! ## White space around hosts -/

theorem IsPortText.not_isSpace {port : List Char} (hport : IsPortText port) :
    ∀ c ∈ port, Text.isSpace c = false := by
  rcases hport with rfl | ⟨digits, rfl, hdigits⟩
  · simp
  · rw [List.forall_mem_cons]
    refine ⟨by decide, fun c hc => ?_⟩
    have hdigit := Text.isDigit_iff.mp (hdigits c hc)
    rw [Bool.eq_false_iff]
    intro hspace
    simp only [Text.isSpace, Bool.or_eq_true, Bool.and_eq_true, decide_eq_true_eq, beq_iff_eq]
      at hspace
    omega

/-- No end of the text of a host is white space. -/
theorem Host.ends_of_parse? (hlawful : toAscii?.IsLawful) (hunmarked : IsUnmarked text)
    (hhost : Host.parse? toAscii? text = some host) :
    (∀ c, text.head? = some c → Text.isSpace c = false) ∧
      ∀ c, text.getLast? = some c → Text.isSpace c = false := by
  rcases Host.exists_name_of_parse? hunmarked hhost with ⟨hopening, hclosing, -⟩ | ⟨name, hname, -⟩
  · rw [hopening, hclosing]
    constructor
    · rintro c ⟨⟩
      decide
    · rintro c ⟨⟩
      decide
  · have hnone := hlawful.not_isSpace hname
    exact ⟨fun c hc => hnone c (List.mem_of_head? hc),
      fun c hc => hnone c (List.mem_of_getLast? hc)⟩

/-- There is no white space around the place of a host. -/
theorem trim_authority {more : Bool} {found : Option Host} (hlawful : toAscii?.IsLawful)
    (hunmarked : IsUnmarked authority)
    (hhost : authorityHost? toAscii? true more authority = some found) :
    Text.trim authority = authority := by
  obtain ⟨text, port, host, rfl, hport, htext, hparsed, -⟩ :=
    exists_host_of_authority hunmarked hhost
  have hfront : IsUnmarked text := fun c hc => hunmarked c (List.mem_append_left port hc)
  obtain ⟨hfirst, hlast⟩ := Host.ends_of_parse? hlawful hfront hparsed
  refine Text.trim_eq_self_iff.mpr ⟨fun c hc => ?_, fun c hc => ?_⟩
  · rw [List.head?_append_of_ne_nil _ htext] at hc
    exact hfirst c hc
  · rw [List.getLast?_append] at hc
    cases hend : port.getLast? with
    | none =>
        rw [hend, Option.none_or] at hc
        exact hlast c hc
    | some d =>
        rw [hend, Option.some_or, Option.some.injEq] at hc
        exact hport.not_isSpace c (hc ▸ List.mem_of_getLast? hend)

/-! ## URLs of the web -/

variable {rest : List Char} {scheme : String} {url : Url}

/-- The place of the host in the text behind the scheme. -/
def authorityOf (text : List Char) : List Char :=
  (text.dropWhile (isSlash true)).takeWhile fun c => !endsAuthority true c

/-- A URL of the web has the host that its authority tells. -/
theorem parse?_web_eq_some (hsplit : splitScheme? (cleaned text) = some (scheme, rest))
    (hweb : styleOf scheme = .web) (hurl : parse? (String.ofList text) toAscii? = some url) :
    ∃ more found, authorityHost? toAscii? true more (authorityOf rest) = some found ∧
      url.host = found := by
  rw [parse?_eq, hsplit, Option.bind_some, hweb, hostAndRest?_web_eq, authorityAndRest?,
    Option.map_map] at hurl
  obtain ⟨found, hfound, rfl⟩ := Option.map_eq_some_iff.mp hurl
  exact ⟨_, found, hfound, by simp [assembled, hweb]⟩

/-- Of a text with no controls only spaces at its end are left out. -/
theorem cleaned_append_cons {first mark : Char} {front behind : List Char}
    (hfirst : 0x20 < first.toNat) (hmark : 0x20 < mark.toNat)
    (hplain : ∀ c ∈ first :: (front ++ mark :: behind), 0x20 ≤ c.toNat) :
    ∃ behind', cleaned (first :: (front ++ mark :: behind)) =
      first :: (front ++ mark :: behind') := by
  have hfront : decide (first.toNat ≤ 0x20) = false := decide_eq_false (by omega)
  have hstays : decide (mark.toNat ≤ 0x20) = false := decide_eq_false (by omega)
  have hkept : ∀ {text : List Char}, text.Sublist (first :: (front ++ mark :: behind)) →
      text.filter (fun c => !isDropped c) = text := by
    intro text hsublist
    refine List.filter_eq_self.mpr fun c hc => ?_
    rw [isDropped_of_le (hplain c (hsublist.subset hc)), Bool.not_false]
  refine ⟨Text.dropEndWhile (fun c => c.toNat ≤ 0x20) behind, ?_⟩
  rw [cleaned_eq, List.dropWhile_cons_of_neg (by simp [hfront]), ← List.cons_append,
    Text.dropEndWhile_append_cons hstays]
  exact hkept (((Text.dropEndWhile_sublist _ behind).cons_cons mark).append_left (first :: front))

theorem splitScheme?_address {name path : List Char} (hname : ∀ c ∈ name, isSchemeChar c = true)
    (halpha : name.head?.any Char.isAlpha = true)
    (hplain : ∀ c ∈ name ++ ':' :: '/' :: '/' :: (text ++ '/' :: path), 0x20 ≤ c.toNat) :
    ∃ path', splitScheme? (cleaned (name ++ ':' :: '/' :: '/' :: (text ++ '/' :: path))) =
      some (Text.lowerAscii (String.ofList name), '/' :: '/' :: (text ++ '/' :: path')) := by
  cases name with
  | nil => cases halpha
  | cons first name =>
      have hfirst : 0x20 < first.toNat := by
        have hletter := Text.isAlpha_iff.mp halpha
        omega
      have hwhole : ∀ path, (first :: name) ++ ':' :: '/' :: '/' :: (text ++ '/' :: path) =
          first :: (name ++ ':' :: '/' :: '/' :: text ++ '/' :: path) := by simp
      rw [hwhole] at hplain ⊢
      obtain ⟨path', hcleaned⟩ := cleaned_append_cons hfirst (by decide) hplain
      rw [hcleaned, ← hwhole path']
      exact ⟨path', splitScheme?_of_run (.of_next hname (by decide) _) halpha⟩

theorem authorityOf_address {path : List Char} (hunmarked : IsUnmarked text) (hne : text ≠ []) :
    authorityOf ('/' :: '/' :: (text ++ '/' :: path)) = text := by
  have hmarks : ∀ c ∈ text, isSlash true c = false ∧ endsAuthority true c = false := by
    intro c hc
    have hnone := hunmarked c hc
    simp only [hostMarks, List.mem_cons, List.not_mem_nil, or_false, not_or] at hnone
    simp [isSlash, endsAuthority, hnone]
  have hslashes : Text.IsRun (isSlash true) ['/', '/'] (text ++ '/' :: path) := by
    refine ⟨by simp [isSlash], fun c hc => ?_⟩
    rw [List.head?_append_of_ne_nil _ hne] at hc
    exact (hmarks c (List.mem_of_head? hc)).1
  have hserver : Text.IsRun (fun c => !endsAuthority true c) text ('/' :: path) :=
    .of_next (fun c hc => by rw [(hmarks c hc).2, Bool.not_false]) (by decide) path
  have hdropped : ('/' :: '/' :: (text ++ '/' :: path)).dropWhile (isSlash true) =
      text ++ '/' :: path := hslashes.dropWhile_eq
  rw [authorityOf, hdropped, hserver.takeWhile_eq]

/-- What the schemes of web pages have in common. -/
theorem pageScheme_facts : ∀ scheme ∈ ["http", "https"],
    (scheme.toList.all fun c => isSchemeChar c && 0x20 ≤ c.toNat) = true ∧
      scheme.toList.head?.any Char.isAlpha = true ∧
        Text.lowerAscii (String.ofList scheme.toList) = scheme ∧ styleOf scheme = .web := by
  decide +kernel

/-- A URL that is put together from a scheme, a text without controls and a path has the host
that the text tells, unless a mark within the text ends the place of the host. -/
theorem exists_authority_of_parse? {path : List Char} (hscheme : scheme ∈ ["http", "https"])
    (hne : text ≠ []) (hplain : ∀ c ∈ text ++ '/' :: path, 0x20 ≤ c.toNat)
    (hurl : parse? (scheme ++ "://" ++ String.ofList text ++ String.ofList ('/' :: path))
      toAscii? = some url) :
    ∃ more found authority, authorityHost? toAscii? true more authority = some found ∧
      url.host = found ∧ (IsUnmarked text → authority = text) := by
  obtain ⟨hchars, halpha, hlower, hweb⟩ := pageScheme_facts scheme hscheme
  simp only [List.all_eq_true, Bool.and_eq_true, decide_eq_true_eq] at hchars
  have haddress : scheme ++ "://" ++ String.ofList text ++ String.ofList ('/' :: path) =
      String.ofList (scheme.toList ++ ':' :: '/' :: '/' :: (text ++ '/' :: path)) := by
    rw [← String.toList_inj]
    simp
  have hwhole : ∀ c ∈ scheme.toList ++ ':' :: '/' :: '/' :: (text ++ '/' :: path),
      0x20 ≤ c.toNat := by
    intro c hc
    rcases List.mem_append.mp hc with hc | hc
    · exact (hchars c hc).2
    · simp only [List.mem_cons] at hc
      rcases hc with rfl | rfl | rfl | hc
      · decide
      · decide
      · decide
      · exact hplain c hc
  obtain ⟨path', hsplit⟩ := splitScheme?_address (fun c hc => (hchars c hc).1) halpha hwhole
  rw [hlower] at hsplit
  rw [haddress] at hurl
  obtain ⟨more, found, hhost, hfound⟩ := parse?_web_eq_some hsplit hweb hurl
  exact ⟨more, found, _, hhost, hfound, fun hunmarked => authorityOf_address hunmarked hne⟩

end StreamLinks.Url
