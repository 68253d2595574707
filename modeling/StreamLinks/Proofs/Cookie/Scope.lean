import Mathlib.Tactic.MkIffOfInductiveProp
import StreamLinks.Cookie.Jar
import StreamLinks.Proofs.Cookie.Declarations
import StreamLinks.Proofs.Url.Hosts

/-!
# Where the cookies of a file are sent

A jar that is filled from a file holds no cookie but those that the lines of the file set.  The
scope of such a cookie comes about by two texts that are put together from the line: the
declaration asks for a domain, and the page that sets the cookie has to lie within it.  The two
meet only in the domain without the dots in front of it, so the cookie is sent to that domain
and below, under the path of the line, and if the line is secure only over a channel that is.
Of the ASCII form in which the domains are compared nothing is needed but its laws.
-/

namespace StreamLinks

variable {toAscii? : Url.ToAscii}

/-! ## Hosts and domains -/

namespace CookieScope

variable {domain : String} {host : Url.Host} {c : Char}

/-- The host is the domain, or a name with the domain behind a dot. -/
def LiesWithin (host : Url.Host) (domain : List Char) : Prop :=
  host.text.toList = domain ∨ ∃ front, host.text.toList = front ++ '.' :: domain

theorem liesWithin_of_isWithin (hwithin : isWithin domain host = true) :
    LiesWithin host domain.toList := by
  cases host with
  | domain name =>
      simp only [isWithin, Bool.or_eq_true, decide_eq_true_eq, List.isSuffixOf_iff_suffix]
        at hwithin
      rcases hwithin with rfl | ⟨front, hname⟩
      · exact .inl rfl
      · exact .inr ⟨front, hname.symm⟩
  | ipv4 address =>
      simp only [isWithin, decide_eq_true_eq] at hwithin
      exact .inl (congrArg String.toList hwithin)
  | ipv6 pieces =>
      simp only [isWithin, decide_eq_true_eq] at hwithin
      exact .inl (congrArg String.toList hwithin)

theorem LiesWithin.mem_text {domain : List Char} (hwithin : LiesWithin host domain)
    (hc : c ∈ domain) : c ∈ host.text.toList := by
  rcases hwithin with htext | ⟨front, htext⟩
  · rwa [htext]
  · rw [htext]
    exact List.mem_append_right front (List.mem_cons_of_mem '.' hc)

theorem LiesWithin.length_le {domain : List Char} (hwithin : LiesWithin host domain) :
    domain.length ≤ host.text.toList.length := by
  rcases hwithin with htext | ⟨front, htext⟩
  · rw [htext]
  · rw [htext, List.length_append, List.length_cons]
    omega

/-- No host lies within its own name behind dots. -/
theorem eq_nil_of_isWithin_dots {more : Bool} {authority dots name : List Char}
    (hlawful : toAscii?.IsLawful) (hunmarked : Url.IsUnmarked authority)
    (hhost : Url.authorityHost? toAscii? true more authority = some (some host))
    (hname : toAscii? (fun _ => false) authority = some name) (hdots : ∀ c ∈ dots, c = '.')
    (hwithin : isWithin (String.ofList (dots ++ name)) host = true) : dots = [] := by
  cases dots with
  | nil => rfl
  | cons dot dots =>
      exfalso
      obtain rfl : dot = '.' := hdots dot List.mem_cons_self
      obtain ⟨text, port, host', rfl, hport, -, hparsed, hfound⟩ :=
        Url.exists_host_of_authority hunmarked hhost
      cases hfound
      have htext : Url.IsUnmarked text := fun c hc => hunmarked c (List.mem_append_left port hc)
      rcases Url.Host.exists_name_of_parse? htext hparsed with
        ⟨-, -, pieces, rfl⟩ | ⟨ascii, hascii, -, ⟨address, rfl⟩ | rfl⟩
      · simp only [isWithin, decide_eq_true_eq] at hwithin
        have hhead := congrArg (fun text => text.toList.head?) hwithin
        simp [Url.Host.text] at hhead
      · simp only [isWithin, decide_eq_true_eq] at hwithin
        refine Url.head?_ipv4Text address ?_
        rw [← Url.Host.text, hwithin, String.toList_ofList]
        rfl
      · have hbelow := liesWithin_of_isWithin hwithin
        rw [String.toList_ofList] at hbelow
        obtain ⟨hform, hallowed⟩ := hlawful.unrefused hascii
        -- A port would show in the name, and no host has a colon in its name.
        have hcolon : ':' ∉ name := by
          intro hmem
          have hkept := hbelow.mem_text (List.mem_append_right _ hmem)
          rw [Url.Host.text, String.toList_ofList] at hkept
          exact absurd (hallowed ':' hkept) (by decide)
        obtain rfl := hport.eq_nil hlawful hname hcolon
        rw [List.append_nil, hform, Option.some.injEq] at hname
        subst hname
        -- So the host is the name, which is shorter than the same name behind dots.
        have hlength := hbelow.length_le
        simp only [Url.Host.text, String.toList_ofList, List.cons_append, List.length_cons,
          List.length_append] at hlength
        omega

end CookieScope

/-! ## Lines and pages -/

namespace CookieLine

open CookieDeclaration (withoutDot)

variable {line : CookieLine} {origin : Url} {c : Char}

/-- The character neither ends an attribute nor is a control. -/
def isColumnChar (c : Char) : Bool :=
  c != ';' && 0x20 ≤ c.toNat

/-- No column of the line holds a semicolon or a control character, its domain is more than
dots, and its path starts at the root. -/
@[mk_iff]
structure IsScoped (line : CookieLine) : Prop where
  plain : ∀ column ∈ [line.domain, line.path, line.name, line.value],
    column.toList.all isColumnChar = true
  domain : line.domain.toList.any (· != '.') = true
  path : line.path.toList.head? = some '/'

instance (line : CookieLine) : Decidable line.IsScoped :=
  decidable_of_iff' _ (isScoped_iff line)

theorem IsScoped.column {column : String} (hscoped : line.IsScoped)
    (hcolumn : column ∈ [line.domain, line.path, line.name, line.value])
    (hc : c ∈ column.toList) : c ≠ ';' ∧ 0x20 ≤ c.toNat := by
  have hall := List.all_eq_true.mp (hscoped.plain column hcolumn) c hc
  rwa [isColumnChar, Bool.and_eq_true, bne_iff_ne, decide_eq_true_eq] at hall

theorem IsScoped.isUnbroken (hscoped : line.IsScoped) : line.IsUnbroken :=
  fun _ hcolumn hmem => (hscoped.column hcolumn hmem).1 rfl

theorem toList_bareDomain (line : CookieLine) :
    line.bareDomain.toList = line.domain.toList.dropWhile (· == '.') :=
  String.toList_ofList

theorem IsScoped.bareDomain_ne (hscoped : line.IsScoped) : line.bareDomain.toList ≠ [] := by
  obtain ⟨c, hmem, hc⟩ := List.any_eq_true.mp hscoped.domain
  rw [toList_bareDomain]
  intro hnil
  exact bne_iff_ne.mp hc (beq_iff_eq.mp (List.dropWhile_eq_nil_iff.mp hnil c hmem))

theorem mem_domain_of_mem_bareDomain (hc : c ∈ line.bareDomain.toList) :
    c ∈ line.domain.toList := by
  rw [toList_bareDomain] at hc
  exact (List.dropWhile_sublist _).subset hc

/-- The page of a line has the host that stands in the place of its bare domain. -/
theorem exists_authority_of_origin (hscoped : line.IsScoped)
    (horigin : line.origin? toAscii? = some origin) :
    ∃ more found authority, Url.authorityHost? toAscii? true more authority = some found ∧
      origin.host = found ∧
      (Url.IsUnmarked line.bareDomain.toList → authority = line.bareDomain.toList) := by
  obtain ⟨path, hpath⟩ : ∃ path, line.path.toList = '/' :: path :=
    List.head?_eq_some_iff.mp hscoped.path
  have hplain : ∀ c ∈ line.bareDomain.toList ++ '/' :: path, 0x20 ≤ c.toNat := by
    intro c hc
    rw [← hpath] at hc
    rcases List.mem_append.mp hc with hc | hc
    · exact (hscoped.column (by simp) (mem_domain_of_mem_bareDomain hc)).2
    · exact (hscoped.column (by simp) hc).2
  have hscheme : (if line.secure then "https" else "http") ∈ ["http", "https"] := by
    split <;> simp
  refine Url.exists_authority_of_parse? hscheme hscoped.bareDomain_ne hplain ?_
  rw [String.ofList_toList, ← hpath, String.ofList_toList]
  exact horigin

/-! ## The domain that a line asks for -/

/-- The domain that a page has to lie within to set the cookie of the line. -/
def askedDomain (line : CookieLine) : List Char :=
  Text.trim (withoutDot (Text.trim line.domain.toList))

/-- A page that may set the cookie of a line either lies within the domain that the line asks
for, or that domain is empty. -/
theorem exists_ascii_of_scopeFor? {declaration : CookieDeclaration} {host : Url.Host}
    {scope : CookieScope} (hlawful : toAscii?.IsLawful)
    (hdomain : declaration.domain = line.declaredDomain?)
    (hscope : Cookie.scopeFor? toAscii? declaration host = some scope) :
    ∃ ascii, toAscii? (fun _ => false) line.askedDomain = some ascii ∧
      (ascii ≠ [] → CookieScope.isWithin (String.ofList ascii) host = true ∧
        scope = .domain (String.ofList ascii)) := by
  rw [Cookie.scopeFor?, hdomain, declaredDomain?] at hscope
  split_ifs at hscope with hempty
  · have hasked : line.askedDomain = [] := by
      rw [askedDomain, List.isEmpty_iff.mp hempty]
      rfl
    exact ⟨[], by rw [hasked]; exact hlawful.nil, fun hne => absurd rfl hne⟩
  · dsimp only at hscope
    rw [String.toList_ofList] at hscope
    obtain ⟨ascii, hascii, hscope⟩ := Option.bind_eq_some_iff.mp hscope
    refine ⟨ascii, hascii, fun hne => ?_⟩
    rw [if_neg (fun hnil => hne (by rw [← String.toList_ofList (l := ascii), hnil]; rfl))] at hscope
    split_ifs at hscope with hwithin
    exact ⟨hwithin, (Option.some.inj hscope).symm⟩

theorem mem_withoutDot {text : List Char} (hmem : c ∈ text) (hdot : c ≠ '.') :
    c ∈ withoutDot text := by
  unfold withoutDot
  split
  next => exact (List.mem_cons.mp hmem).resolve_left hdot
  next => exact hmem

theorem mem_askedDomain (hmem : c ∈ line.domain.toList) (hdot : c ≠ '.')
    (hspace : Text.isSpace c = false) : c ∈ line.askedDomain :=
  Text.mem_trim (mem_withoutDot (Text.mem_trim hmem hspace) hdot) hspace

/-- No mark stands in the domain of a line whose page may set its cookie: it would stand in the
ASCII form as well, and the host of the page holds none. -/
theorem isUnmarked_bareDomain {ascii text : List Char} {host : Url.Host}
    (hlawful : toAscii?.IsLawful)
    (hascii : toAscii? (fun _ => false) line.askedDomain = some ascii)
    (hwithin : ascii ≠ [] → CookieScope.isWithin (String.ofList ascii) host = true)
    (hhost : Url.Host.parse? toAscii? text = some host) :
    Url.IsUnmarked line.bareDomain.toList := by
  intro c hmem hmark
  have hall : Url.hostMarks.all (fun c =>
      Url.delimiters.contains c && c != '.' && !Text.isSpace c) = true := by decide
  have hfacts := List.all_eq_true.mp hall c hmark
  simp only [Bool.and_eq_true, List.contains_iff_mem, bne_iff_ne, ne_eq,
    Bool.not_eq_true'] at hfacts
  obtain ⟨⟨hdelimiter, hdot⟩, hspace⟩ := hfacts
  have hkept := hlawful.delimiter hascii c hdelimiter
    (mem_askedDomain (mem_domain_of_mem_bareDomain hmem) hdot hspace)
  have hbelow := CookieScope.liesWithin_of_isWithin (hwithin (List.ne_nil_of_mem hkept))
  rw [String.toList_ofList] at hbelow
  exact Url.isUnmarked_text hlawful hhost c (hbelow.mem_text hkept) hmark

/-- A line whose bare domain has no white space around it asks for that domain, behind all of
its dots but one. -/
theorem askedDomain_eq (hscoped : line.IsScoped)
    (htrim : Text.trim line.bareDomain.toList = line.bareDomain.toList) :
    ∃ dots, (∀ c ∈ dots, c = '.') ∧ line.askedDomain = dots ++ line.bareDomain.toList := by
  obtain ⟨dots, bare, hwhole, hrun⟩ := Text.IsRun.exists_append (· == '.') line.domain.toList
  have hbare : line.bareDomain.toList = bare := by
    rw [toList_bareDomain, hwhole, hrun.dropWhile_eq]
  have hne : bare ≠ [] := hbare ▸ hscoped.bareDomain_ne
  have hdots : ∀ c ∈ dots, c = '.' := fun c hc => beq_iff_eq.mp (hrun.all c hc)
  rw [hbare] at htrim
  have htrimmed : ∀ dots : List Char, (∀ c ∈ dots, c = '.') →
      Text.trim (dots ++ bare) = dots ++ bare := by
    intro dots hdots
    refine Text.trim_append_trimmed (fun c hc => ?_) htrim hne
    rw [hdots c hc]
    decide
  rw [askedDomain, hbare, hwhole, htrimmed dots hdots]
  cases dots with
  | nil =>
      have hstays : withoutDot bare = bare := by
        unfold withoutDot
        split
        next => exact absurd (hrun.stops '.' rfl) (by decide)
        next => rfl
      exact ⟨[], by simp, by rw [List.nil_append, hstays, htrim]⟩
  | cons dot dots =>
      rw [List.forall_mem_cons] at hdots
      obtain ⟨rfl, hdots⟩ := hdots
      exact ⟨dots, hdots, htrimmed dots hdots⟩

/-- The page of a line may set its cookie only for the bare domain of the line. -/
theorem scope_eq_of_ofDeclaration? {declaration : CookieDeclaration} {host : Url.Host}
    {scope : CookieScope} (hlawful : toAscii?.IsLawful) (hscoped : line.IsScoped)
    (horigin : line.origin? toAscii? = some origin)
    (hhost : origin.host = some host) (hdomain : declaration.domain = line.declaredDomain?)
    (hscope : Cookie.scopeFor? toAscii? declaration host = some scope) :
    ∃ domain, toAscii? (fun _ => false) line.bareDomain.toList = some domain ∧
      scope = .domain (String.ofList domain) := by
  obtain ⟨ascii, hascii, hwithin⟩ := exists_ascii_of_scopeFor? hlawful hdomain hscope
  obtain ⟨more, found, authority, hfound, hsame, hauthority⟩ :=
    exists_authority_of_origin hscoped horigin
  obtain rfl : some host = found := hhost.symm.trans hsame
  obtain ⟨text, -, host', -, -, -, hparsed, hhost'⟩ := Url.authorityHost?_eq_some hfound
  obtain rfl := Option.some.inj hhost'
  have hunmarked := isUnmarked_bareDomain hlawful hascii (fun hne => (hwithin hne).1) hparsed
  rw [hauthority hunmarked] at hfound
  obtain ⟨dots, hdots, hasked⟩ :=
    askedDomain_eq hscoped (Url.trim_authority hlawful hunmarked hfound)
  rw [hasked] at hascii
  obtain ⟨domain, rfl, hform⟩ := hlawful.dots hdots hascii
  have hne : domain ≠ [] := Url.ascii_ne_nil hlawful hunmarked hfound hform
  obtain ⟨hinside, rfl⟩ := hwithin (List.append_ne_nil_of_right_ne_nil dots hne)
  obtain rfl := CookieScope.eq_nil_of_isWithin_dots hlawful hunmarked hfound hform hdots hinside
  exact ⟨domain, hform, rfl⟩

theorem exists_trim_path (hscoped : line.IsScoped) :
    ∃ rest, Text.trim line.path.toList = '/' :: rest := by
  obtain ⟨path, hpath⟩ : ∃ path, line.path.toList = '/' :: path :=
    List.head?_eq_some_iff.mp hscoped.path
  rw [hpath]
  exact ⟨_, Text.dropEndWhile_cons (by decide) path⟩

end CookieLine

/-! ## The cookies that lines set -/

namespace Cookie

variable {cookie : Cookie} {line : CookieLine} {url : Url}

/-- The page of the line sets the cookie by the declaration of the line. -/
def IsSetBy (toAscii? : Url.ToAscii) (cookie : Cookie) (line : CookieLine) : Prop :=
  ∃ origin declaration, line.origin? toAscii? = some origin ∧
    CookieDeclaration.parse? line.declaration = some declaration ∧
    ofDeclaration? toAscii? declaration origin = some cookie

/-- The cookie says what the line says. -/
structure Carries (toAscii? : Url.ToAscii) (cookie : Cookie) (line : CookieLine) : Prop where
  pair : line.Writes cookie.name cookie.value
  scope : ∃ domain, toAscii? (fun _ => false) line.bareDomain.toList = some domain ∧
    cookie.scope = .domain (String.ofList domain)
  path : cookie.path = Text.trim line.path.toList
  secure : cookie.secure = line.secure

theorem IsSetBy.carries (hlawful : toAscii?.IsLawful) (hset : cookie.IsSetBy toAscii? line)
    (hscoped : line.IsScoped) : cookie.Carries toAscii? line := by
  obtain ⟨origin, declaration, horigin, hdeclaration, hcookie⟩ := hset
  obtain ⟨name, value, hwrites, rfl⟩ :=
    CookieLine.exists_writes_of_parse? hscoped.isUnbroken hdeclaration
  obtain ⟨host, hhost, hcookie⟩ := Option.bind_eq_some_iff.mp hcookie
  obtain ⟨scope, hscope, hcookie⟩ := Option.bind_eq_some_iff.mp hcookie
  obtain ⟨rest, hpath⟩ := CookieLine.exists_trim_path hscoped
  obtain rfl := Option.some.inj hcookie
  exact {
    pair := hwrites
    scope := CookieLine.scope_eq_of_ofDeclaration? hlawful hscoped horigin hhost rfl hscope
    path := by
      dsimp only
      rw [Option.map_some, String.toList_ofList, hpath]
      rfl
    secure := rfl }

/-- The path is that of the cookie, or goes on from it behind a slash. -/
def PathMatches (cookiePath path : List Char) : Prop :=
  path = cookiePath ∨ ∃ rest, path = cookiePath ++ rest ∧
    (cookiePath.getLast? = some '/' ∨ rest.head? = some '/')

theorem pathMatches_iff {cookiePath path : List Char} :
    pathMatches cookiePath path = true ↔ PathMatches cookiePath path := by
  simp only [pathMatches, PathMatches, Bool.or_eq_true, Bool.and_eq_true, decide_eq_true_eq,
    List.isPrefixOf_iff_prefix]
  refine or_congr Iff.rfl ⟨?_, ?_⟩
  · rintro ⟨⟨rest, rfl⟩, hslash⟩
    rw [List.drop_left] at hslash
    exact ⟨rest, rfl, hslash⟩
  · rintro ⟨rest, rfl, hslash⟩
    rw [List.drop_left]
    exact ⟨List.prefix_append cookiePath rest, hslash⟩

instance (cookiePath path : List Char) : Decidable (PathMatches cookiePath path) :=
  decidable_of_iff _ pathMatches_iff

end Cookie

namespace CookieLine

/-- The line lets its cookie go along with requests for the URL: the host is the bare domain of
the line or lies below it, the path is under that of the line, and a secure line asks for a
channel that is secure. -/
structure Permits (toAscii? : Url.ToAscii) (line : CookieLine) (url : Url) : Prop where
  domain : ∃ host domain, url.host = some host ∧
    toAscii? (fun _ => false) line.bareDomain.toList = some domain ∧
    CookieScope.LiesWithin host domain
  path : Cookie.PathMatches (Text.trim line.path.toList) url.path
  secure : line.secure = true → url.scheme = "https"

end CookieLine

theorem Cookie.Carries.permits {cookie : Cookie} {line : CookieLine} {url : Url}
    (hcarries : cookie.Carries toAscii? line) (hbelongs : cookie.belongsTo url = true)
    (hremote : ∀ host, url.host = some host → host.isLoopback = false) :
    line.Permits toAscii? url := by
  obtain ⟨-, ⟨domain, hdomain, hscope⟩, hpath, hsecure⟩ := hcarries
  simp only [belongsTo, Bool.and_eq_true, Option.any_eq_true, Bool.or_eq_true,
    Bool.not_eq_true'] at hbelongs
  obtain ⟨⟨⟨⟨host, hhost, hincludes⟩, hmatches⟩, hchannel⟩, -⟩ := hbelongs
  rw [hscope] at hincludes
  have hwithin := CookieScope.liesWithin_of_isWithin hincludes
  rw [String.toList_ofList] at hwithin
  refine ⟨⟨host, domain, hhost, hdomain, hwithin⟩, ?_, fun hline => ?_⟩
  · rw [← hpath]
    exact pathMatches_iff.mp hmatches
  · rw [hsecure, hline] at hchannel
    simpa [isConfidential, hhost, hremote host hhost] using hchannel

/-! ## Jars -/

namespace CookieJar

variable {jar : CookieJar} {cookie : Cookie} {line : CookieLine} {lines : List CookieLine}
  {url : Url}

theorem mem_set {declaration : CookieDeclaration} {origin : Url}
    (hmem : cookie ∈ (jar.set toAscii? declaration origin).cookies) :
    cookie ∈ jar.cookies ∨ Cookie.ofDeclaration? toAscii? declaration origin = some cookie := by
  unfold set at hmem
  split at hmem
  next => exact .inl hmem
  next new hnew =>
    dsimp only at hmem
    split at hmem
    next => exact .inl (List.mem_of_mem_filter hmem)
    next =>
      rcases List.mem_append.mp hmem with hold | hlast
      · exact .inl (List.mem_of_mem_filter hold)
      · exact .inr (by rw [hnew, List.mem_singleton.mp hlast])

/-- A line adds no cookie but its own. -/
theorem mem_addLine (hmem : cookie ∈ (jar.addLine toAscii? line).cookies) :
    cookie ∈ jar.cookies ∨ cookie.IsSetBy toAscii? line := by
  unfold addLine at hmem
  split at hmem
  next origin declaration horigin hdeclaration =>
    exact (mem_set hmem).imp_right fun hnew =>
      ⟨origin, declaration, horigin, hdeclaration, hnew⟩
  next => exact .inl hmem

theorem mem_foldl_addLine (hmem : cookie ∈ (lines.foldl (addLine toAscii?) jar).cookies) :
    cookie ∈ jar.cookies ∨ ∃ line ∈ lines, cookie.IsSetBy toAscii? line := by
  induction lines generalizing jar with
  | nil => exact .inl hmem
  | cons line lines ih =>
      rcases ih hmem with hjar | ⟨later, hlater, hset⟩
      · exact (mem_addLine hjar).imp_right fun hset => ⟨line, List.mem_cons_self, hset⟩
      · exact .inr ⟨later, List.mem_cons_of_mem line hlater, hset⟩

/-- Each cookie in the jar of a file is set by one of its lines. -/
theorem exists_line_of_mem_ofFile {file : String} (hmem : cookie ∈ (ofFile file toAscii?).cookies) :
    ∃ line ∈ CookieLine.ofFile file, cookie.IsSetBy toAscii? line :=
  (mem_foldl_addLine hmem).resolve_left List.not_mem_nil

theorem exists_cookie_of_sent? {pairs : List String} (hsent : jar.sent? url = some pairs) :
    ∀ pair ∈ pairs, ∃ cookie ∈ jar.cookies, cookie.belongsTo url = true ∧ pair = cookie.text := by
  intro pair hpair
  unfold sent? at hsent
  dsimp only at hsent
  split_ifs at hsent
  obtain rfl := Option.some.inj hsent
  obtain ⟨cookie, hcookie, rfl⟩ := List.mem_map.mp (List.mem_mergeSort.mp hpair)
  obtain ⟨hmem, hbelongs⟩ := List.mem_filter.mp hcookie
  exact ⟨cookie, hmem, hbelongs, rfl⟩

/-- Cookies stay in their scope: to a URL on another machine the jar of a file sends nothing but
the pairs that lines of the file write, and of these only the ones that their lines permit. -/
theorem cookies_stay_in_scope {file : String} {pairs : List String}
    (hlawful : toAscii?.IsLawful)
    (hscoped : ∀ line ∈ CookieLine.ofFile file, line.IsScoped)
    (hremote : ∀ host, url.host = some host → host.isLoopback = false)
    (hsent : (ofFile file toAscii?).sent? url = some pairs) :
    ∀ pair ∈ pairs, ∃ line ∈ CookieLine.ofFile file, ∃ name value,
      pair = name ++ "=" ++ value ∧ line.Writes name value ∧
      ('=' ∉ line.name.toList →
        name = Text.trimString line.name ∧ value = Text.trimString line.value) ∧
      line.Permits toAscii? url := by
  intro pair hpair
  obtain ⟨cookie, hmem, hbelongs, rfl⟩ := exists_cookie_of_sent? hsent pair hpair
  obtain ⟨line, hline, hset⟩ := exists_line_of_mem_ofFile hmem
  have hcarries := hset.carries hlawful (hscoped line hline)
  exact ⟨line, hline, cookie.name, cookie.value, rfl, hcarries.pair, hcarries.pair.eq_trim,
    hcarries.permits hbelongs hremote⟩

/-- A cookie of the domain goes to a host below it, and the one of another domain does not. -/
theorem cookies_stay_in_scope_below_domain :
    let file := ".example.com\tTRUE\t/p\tTRUE\t0\tsid\ta=b\nother.com\tTRUE\t/\tFALSE\t0\tn\tv\n"
    let url : Url :=
      { scheme := "https", host := some (.domain "www.example.com"), path := "/p/x".toList,
        query := none }
    (ofFile file).sent? url = some ["sid=a=b"] ∧
      ∀ pair ∈ ["sid=a=b"], ∃ line ∈ CookieLine.ofFile file, ∃ name value,
        pair = name ++ "=" ++ value ∧ line.Writes name value ∧
        ('=' ∉ line.name.toList →
          name = Text.trimString line.name ∧ value = Text.trimString line.value) ∧
        line.Permits Url.domainToAscii? url := by
  intro file url
  have hscoped : ∀ line ∈ CookieLine.ofFile file, line.IsScoped := by decide +kernel
  have hremote : ∀ host, url.host = some host → host.isLoopback = false := by
    rintro host ⟨⟩
    decide
  have hsent : (ofFile file).sent? url = some ["sid=a=b"] := by decide +kernel
  exact ⟨hsent, cookies_stay_in_scope Url.isLawful_domainToAscii? hscoped hremote hsent⟩

/-- A name is divided at the equals sign that it holds, and the white space around that sign is
lost; a path is trimmed before it is compared.  So the pair that is sent need not be the name
and the value of any line, and the path of the line need not lead to the URL. -/
theorem inner_blanks_are_lost :
    let marked := "example.com\tTRUE\t/\tFALSE\t0\tx =y\tz\n"
    let spaced := "example.com\tTRUE\t/p \tFALSE\t0\tn\tv\n"
    let host := Url.Host.domain "example.com"
    let root : Url := { scheme := "http", host := some host, path := ['/'], query := none }
    let page : Url := { scheme := "http", host := some host, path := ['/', 'p'], query := none }
    host.isLoopback = false ∧
      (∀ line ∈ CookieLine.ofFile marked, line.IsScoped) ∧
      (ofFile marked).sent? root = some ["x=y=z"] ∧
      (∀ line ∈ CookieLine.ofFile marked,
        "x=y=z" ≠ Text.trimString line.name ++ "=" ++ Text.trimString line.value) ∧
      (∀ line ∈ CookieLine.ofFile spaced, line.IsScoped) ∧
      (ofFile spaced).sent? page = some ["n=v"] ∧
      ∀ line ∈ CookieLine.ofFile spaced,
        ¬ Cookie.PathMatches line.path.toList page.path := by
  refine ⟨?_, ?_, ?_, ?_, ?_, ?_, ?_⟩ <;> decide +kernel

end CookieJar

end StreamLinks
