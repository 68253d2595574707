import StreamLinks.Cookie.Declaration
import StreamLinks.Cookie.Line
import StreamLinks.Proofs.Text.Trimming
import StreamLinks.Proofs.Text.Pieces

/-!
# The declarations of cookie lines

The cookie of a line is set by a text that is put together from the columns of the line.  As
long as no column holds a semicolon, that text is read back attribute by attribute: the domain,
the path and the mark of secure cookies are those of the line.  Name and value stand with an
equals sign between them, and are told apart at the first one.
-/

namespace StreamLinks.CookieLine

open CookieDeclaration (splitAttribute withAttribute withoutDot)

variable {line : CookieLine} {declaration : CookieDeclaration} {name value : String}

/-- No column of the line ends before its place in the declaration does. -/
def IsUnbroken (line : CookieLine) : Prop :=
  ∀ column ∈ [line.domain, line.path, line.name, line.value], ';' ∉ column.toList

/-- The columns of name and value, with an equals sign between them, write a name and a value:
they are divided at the first equals sign and trimmed. -/
def Writes (line : CookieLine) (name value : String) : Prop :=
  ∃ front back, line.name.toList ++ '=' :: line.value.toList = front ++ '=' :: back ∧
    '=' ∉ front ∧ name = String.ofList (Text.trim front) ∧ value = String.ofList (Text.trim back)

theorem Writes.eq_trim (hwrites : line.Writes name value) (hname : '=' ∉ line.name.toList) :
    name = Text.trimString line.name ∧ value = Text.trimString line.value := by
  obtain ⟨front, back, hpair, hfront, rfl, rfl⟩ := hwrites
  obtain ⟨rfl, rfl⟩ := Text.eq_of_first_separator hpair hname hfront
  exact ⟨rfl, rfl⟩

/-! ## Attributes -/

/-- The attributes of the declaration, without the semicolons in front of them. -/
def attributes (line : CookieLine) : List (List Char) :=
  (" Domain=".toList ++ line.domain.toList) :: (" Path=".toList ++ line.path.toList) ::
    if line.secure then [" Secure".toList] else []

theorem declaration_eq_intercalate (line : CookieLine) :
    line.declaration.toList =
      [';'].intercalate ((line.name.toList ++ '=' :: line.value.toList) :: line.attributes) := by
  cases hsecure : line.secure <;>
    simp [declaration, attributes, hsecure, List.intercalate, List.intersperse]

theorem splitAt_declaration (hunbroken : line.IsUnbroken) :
    Text.splitAt ';' line.declaration.toList =
      (line.name.toList ++ '=' :: line.value.toList) :: line.attributes := by
  simp only [IsUnbroken, List.forall_mem_cons, List.not_mem_nil, false_implies, implies_true,
    and_true] at hunbroken
  obtain ⟨hdomain, hpath, hname, hvalue⟩ := hunbroken
  rw [declaration_eq_intercalate, Text.splitAt_intercalate (List.cons_ne_nil _ _)]
  simp only [attributes, List.forall_mem_cons]
  refine ⟨by simp [hname, hvalue], by simp [hdomain], by simp [hpath], ?_⟩
  split <;> simp

theorem splitAttribute_assignment {key text : List Char} (hkey : '=' ∉ key) :
    splitAttribute (key ++ '=' :: text) =
      (Text.lowerAscii (String.ofList (Text.trim key)), some (Text.trim text)) := by
  rw [splitAttribute, Text.cutAt?_eq_some.mpr ⟨rfl, hkey⟩]

theorem withAttribute_domain (declaration : CookieDeclaration) (domain : List Char) :
    withAttribute declaration (" Domain=".toList ++ domain) =
      if (Text.trim domain).isEmpty then declaration
      else { declaration with
        domain := some (String.ofList (withoutDot (Text.trim domain))) } := by
  have hassign : " Domain=".toList ++ domain = " Domain".toList ++ '=' :: domain := by simp
  have hkey : Text.lowerAscii (String.ofList (Text.trim " Domain".toList)) = "domain" := by
    decide +kernel
  rw [withAttribute, hassign, splitAttribute_assignment (by decide), hkey]
  rfl

theorem withAttribute_path (declaration : CookieDeclaration) (path : List Char) :
    withAttribute declaration (" Path=".toList ++ path) =
      { declaration with path := some (String.ofList (Text.trim path)) } := by
  have hassign : " Path=".toList ++ path = " Path".toList ++ '=' :: path := by simp
  have hkey : Text.lowerAscii (String.ofList (Text.trim " Path".toList)) = "path" := by
    decide +kernel
  rw [withAttribute, hassign, splitAttribute_assignment (by decide), hkey]
  rfl

theorem withAttribute_secure (declaration : CookieDeclaration) :
    withAttribute declaration " Secure".toList = { declaration with secure := true } := by
  have hsplit : splitAttribute " Secure".toList = ("secure", none) := by decide +kernel
  rw [withAttribute, hsplit]
  rfl

/-! ## Declarations -/

/-- The domain that the declaration of the line asks for. -/
def declaredDomain? (line : CookieLine) : Option String :=
  if (Text.trim line.domain.toList).isEmpty then none
  else some (String.ofList (withoutDot (Text.trim line.domain.toList)))

theorem foldl_attributes (line : CookieLine) (name value : String) :
    line.attributes.foldl withAttribute { name, value } =
      { name, value
        domain := line.declaredDomain?
        path := some (String.ofList (Text.trim line.path.toList))
        secure := line.secure } := by
  rw [attributes, List.foldl_cons, List.foldl_cons, withAttribute_domain, withAttribute_path,
    declaredDomain?]
  cases hsecure : line.secure with
  | false => split <;> rfl
  | true =>
      rw [if_pos rfl, List.foldl_cons, withAttribute_secure, List.foldl_nil]
      split <;> rfl

/-- What a line without semicolons declares. -/
theorem exists_writes_of_parse? (hunbroken : line.IsUnbroken)
    (hparse : CookieDeclaration.parse? line.declaration = some declaration) :
    ∃ name value, line.Writes name value ∧ declaration =
      { name, value
        domain := line.declaredDomain?
        path := some (String.ofList (Text.trim line.path.toList))
        secure := line.secure } := by
  rw [CookieDeclaration.parse?, splitAt_declaration hunbroken] at hparse
  obtain ⟨pair, hpair, rfl⟩ := Option.map_eq_some_iff.mp hparse
  obtain ⟨⟨front, back⟩, hcut, hpair⟩ := Option.bind_eq_some_iff.mp hpair
  obtain ⟨hwhole, hfront⟩ := Text.cutAt?_eq_some.mp hcut
  dsimp only at hpair
  split at hpair
  next => cases hpair
  next =>
    obtain rfl := Option.some.inj hpair
    exact ⟨_, _, ⟨front, back, hwhole, hfront, rfl, rfl⟩, foldl_attributes line _ _⟩

end StreamLinks.CookieLine
