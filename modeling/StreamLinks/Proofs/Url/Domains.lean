import Mathlib.Data.List.Infix
import StreamLinks.Proofs.Outcome
import StreamLinks.Proofs.Text.Composition
import StreamLinks.Proofs.Text.Letters
import StreamLinks.Proofs.Text.Pieces
import StreamLinks.Url.Domain

/-!
# ASCII forms of domain names

The lemmas about hosts and cookies hold for every way to bring domain names into their ASCII
form that obeys a few laws: a mark that no host may hold shows in the form as it does in the
name, white space is no part of a name that a URL accepts, and a dot in front stays there.

The form by mapping, composition and Punycode obeys them.  It loses no character of ASCII but
for the difference between upper and lower case and for letters and signs that take a mark, and
delimiters, blanks and dots take none.
-/

namespace StreamLinks.Url

/-! ## Laws -/

/-- The marks around hosts, which stand for nothing but themselves in domain names. -/
def delimiters : List Char :=
  ['/', '\\', '?', '#', '@', '%', ':', '[']

/-- What every way to bring domain names into their ASCII form has in common.  Refusing
characters changes no form; delimiters stay, white space stays white space, and so do empty
labels in front. -/
structure ToAscii.IsLawful (toAscii? : ToAscii) : Prop where
  unrefused : ∀ {refused : Char → Bool} {domain ascii : List Char},
    toAscii? refused domain = some ascii →
      toAscii? (fun _ => false) domain = some ascii ∧ ∀ c ∈ ascii, refused c = false
  delimiter : ∀ {domain ascii : List Char}, toAscii? (fun _ => false) domain = some ascii →
    ∀ c ∈ delimiters, c ∈ domain → c ∈ ascii
  space : ∀ {domain ascii : List Char}, toAscii? (fun _ => false) domain = some ascii →
    ∀ c ∈ domain, Text.isSpace c = true → ∃ d ∈ ascii, d.toNat ≤ 0x20
  nil : toAscii? (fun _ => false) [] = some []
  dot : ∀ {domain ascii : List Char}, toAscii? (fun _ => false) ('.' :: domain) = some ascii →
    ∃ rest, ascii = '.' :: rest ∧ toAscii? (fun _ => false) domain = some rest

namespace ToAscii.IsLawful

variable {toAscii? : ToAscii} {domain ascii : List Char}

/-- A form that holds no character up to the blank comes from a name without white space. -/
theorem not_isSpace (hlawful : toAscii?.IsLawful)
    (hdomain : toAscii? isForbiddenInDomain domain = some ascii) :
    ∀ c ∈ domain, Text.isSpace c = false := by
  intro c hmem
  by_contra hspace
  rw [Bool.not_eq_false] at hspace
  obtain ⟨hform, hallowed⟩ := hlawful.unrefused hdomain
  obtain ⟨d, hd, hlow⟩ := hlawful.space hform c hmem hspace
  have hfree := hallowed d hd
  simp [isForbiddenInDomain, hlow] at hfree

theorem dots {dots : List Char} (hlawful : toAscii?.IsLawful) (hdots : ∀ c ∈ dots, c = '.')
    (hdomain : toAscii? (fun _ => false) (dots ++ domain) = some ascii) :
    ∃ rest, ascii = dots ++ rest ∧ toAscii? (fun _ => false) domain = some rest := by
  induction dots generalizing ascii with
  | nil => exact ⟨ascii, rfl, hdomain⟩
  | cons c dots ih =>
      rw [List.forall_mem_cons] at hdots
      obtain ⟨rfl, hdots⟩ := hdots
      obtain ⟨others, rfl, hothers⟩ := hlawful.dot hdomain
      obtain ⟨rest, rfl, hrest⟩ := ih hdots hothers
      exact ⟨rest, rfl, hrest⟩

end ToAscii.IsLawful

/-! ## Punycode -/

namespace Punycode

theorem Encoding.written_pass (code : Nat) (state : Encoding) (c : Char) :
    state.written <+: (state.pass code c).written := by
  unfold Encoding.pass
  split
  next => exact List.prefix_refl _
  next =>
    split
    next => exact List.prefix_append _ _
    next => exact List.prefix_refl _

theorem written_foldl_pass (code : Nat) (label : List Char) (state : Encoding) :
    state.written <+: (label.foldl (Encoding.pass code) state).written := by
  induction label generalizing state with
  | nil => exact List.prefix_refl _
  | cons c label ih => exact (state.written_pass code c).trans (ih _)

/-- What is written stays written, whatever is placed behind it. -/
theorem written_placeCodes (label : List Char) (codes : List Nat) (next : Nat)
    (state : Encoding) : state.written <+: (placeCodes label codes next state).written := by
  induction codes generalizing next state with
  | nil => exact List.prefix_refl _
  | cons code codes ih =>
      unfold placeCodes
      dsimp only
      refine List.IsPrefix.trans ?_ (ih _ _)
      exact written_foldl_pass code label
        { state with distance := state.distance + (code - next) * (state.placed + 1) }

/-- The characters of ASCII stand in front of the digits. -/
theorem mem_encode {label : List Char} {c : Char} (hascii : c.toNat < 0x80) (hmem : c ∈ label) :
    c ∈ encode label := by
  have hbasic : c ∈ label.filter fun c => c.toNat < 0x80 :=
    List.mem_filter.mpr ⟨hmem, decide_eq_true hascii⟩
  have hne : (label.filter fun c => c.toNat < 0x80).isEmpty = false :=
    List.isEmpty_eq_false_iff.mpr (List.ne_nil_of_mem hbasic)
  unfold encode
  dsimp only
  rw [hne]
  exact (written_placeCodes label _ _ _).subset (List.mem_append_left _ hbasic)

end Punycode

variable {refused : Char → Bool} {domain ascii : List Char} {c : Char}

/-! ## The stages of the ASCII form -/

theorem domainToAscii?_eq_some :
    domainToAscii? refused domain = some ascii ↔
      ∃ images labels,
        List.Forall₂ (fun c image => mapChar? c = some image) domain images ∧
        List.Forall₂ (fun written label => labelOf? written = some label)
          (Text.splitAt '.' (Text.composed images.flatten)) labels ∧
        (labels.any isLeftward && !labels.all keepsDirection) = false ∧
        ascii = ['.'].intercalate (labels.map labelToAscii) ∧ ∀ c ∈ ascii, refused c = false := by
  simp only [← mapM_eq_some]
  unfold domainToAscii?
  constructor
  · intro hascii
    obtain ⟨images, himages, hascii⟩ := Option.bind_eq_some_iff.mp hascii
    obtain ⟨labels, hlabels, hascii⟩ := Option.bind_eq_some_iff.mp hascii
    split at hascii
    next => cases hascii
    next hdirection =>
      dsimp only at hascii
      split at hascii
      next => cases hascii
      next hallowed =>
        cases hascii
        rw [Bool.not_eq_true] at hdirection
        rw [Bool.not_eq_true, List.any_eq_false] at hallowed
        exact ⟨images, labels, himages, hlabels, hdirection, rfl,
          fun c hc => Bool.eq_false_iff.mpr (hallowed c hc)⟩
  · rintro ⟨images, labels, himages, hlabels, hdirection, rfl, hallowed⟩
    have hnone : (['.'].intercalate (labels.map labelToAscii)).any refused = false := by
      rw [List.any_eq_false]
      exact fun c hc => Bool.eq_false_iff.mp (hallowed c hc)
    rw [himages, Option.bind_eq_bind, Option.bind_some, hlabels, Option.bind_some, hdirection,
      if_neg Bool.false_ne_true]
    exact if_neg (by rw [hnone]; exact Bool.false_ne_true)

/-- A form that is not refused is the form of the name. -/
theorem domainToAscii?_unrefused (hascii : domainToAscii? refused domain = some ascii) :
    domainToAscii? (fun _ => false) domain = some ascii ∧ ∀ c ∈ ascii, refused c = false := by
  obtain ⟨images, labels, himages, hlabels, hdirection, hwhole, hallowed⟩ :=
    domainToAscii?_eq_some.mp hascii
  exact ⟨domainToAscii?_eq_some.mpr
    ⟨images, labels, himages, hlabels, hdirection, hwhole, fun _ _ => rfl⟩, hallowed⟩

/-! ## Characters that stay -/

theorem mapChar?_of_ascii (hascii : c.toNat < 0x80) : mapChar? c = some [c.toLower] := by
  rw [mapChar?, if_pos hascii]

/-- No character of ASCII is lost between the label that is written and its ASCII form. -/
theorem mem_labelToAscii {written label : List Char} (hlabel : labelOf? written = some label)
    (hascii : c.toNat < 0x80) (hmem : c ∈ written) : c ∈ labelToAscii label := by
  unfold labelOf? at hlabel
  split at hlabel
  next digits hdigits =>
    obtain ⟨decoded, -, hkept⟩ := Option.bind_eq_some_iff.mp hlabel
    split at hkept
    next hproper =>
      obtain rfl := Option.some.inj hkept
      simp only [Bool.and_eq_true, Bool.not_eq_true', beq_iff_eq] at hproper
      obtain ⟨⟨-, hforeign⟩, hencoded⟩ := hproper
      have hwritten : labelToAscii decoded = written := by
        rw [labelToAscii, hforeign, if_neg Bool.false_ne_true, hencoded,
          ← Text.after?_eq_some.mp hdigits]
      rwa [hwritten]
    next => cases hkept
  next =>
    split at hlabel
    next =>
      obtain rfl := Option.some.inj hlabel
      unfold labelToAscii
      split
      next => exact hmem
      next => exact List.mem_append_right _ (Punycode.mem_encode hascii hmem)
    next => cases hlabel

/-- A character of ASCII that takes no marks stays in the name once it has been mapped, unless
it is a dot. -/
theorem mem_of_mem_image {image : List Char} {d : Char}
    (hdomain : domainToAscii? refused domain = some ascii) (hmem : c ∈ domain)
    (himage : mapChar? c = some image) (hd : d ∈ image) (hascii : d.toNat < 0x80)
    (hplain : Text.takesMarks d = false) (hdot : d ≠ '.') : d ∈ ascii := by
  obtain ⟨images, labels, himages, hlabels, -, rfl, -⟩ := domainToAscii?_eq_some.mp hdomain
  obtain ⟨image', hin, hmap⟩ := Text.exists_of_forall₂ himages hmem
  obtain rfl : image = image' := Option.some.inj (himage.symm.trans hmap)
  have hcomposed : d ∈ Text.composed images.flatten :=
    Text.mem_composed (Text.isInert_of_ascii hascii hplain) (List.mem_flatten.mpr ⟨image, hin, hd⟩)
  obtain ⟨written, hwritten, hinside⟩ := (@Text.exists_piece_iff _ (· == '.') _ _).mpr
    ⟨hcomposed, beq_eq_false_iff_ne.mpr hdot⟩
  obtain ⟨label, hlabel, hform⟩ := Text.exists_of_forall₂ hlabels hwritten
  exact Text.mem_intercalate_of_mem (List.mem_map_of_mem hlabel)
    (mem_labelToAscii hform hascii hinside) _

theorem delimiter_mem_of_domainToAscii? (hdomain : domainToAscii? refused domain = some ascii)
    (hdelimiter : c ∈ delimiters) (hmem : c ∈ domain) : c ∈ ascii := by
  have hall : delimiters.all (fun c =>
      c.toNat < 0x80 && c.toLower == c && !Text.takesMarks c && c != '.') = true := by decide
  have hfacts := List.all_eq_true.mp hall c hdelimiter
  simp only [Bool.and_eq_true, decide_eq_true_eq, beq_iff_eq, Bool.not_eq_true', bne_iff_ne,
    ne_eq] at hfacts
  obtain ⟨⟨⟨hascii, hlower⟩, hplain⟩, hdot⟩ := hfacts
  have himage : mapChar? c = some [c] := by rw [mapChar?_of_ascii hascii, hlower]
  exact mem_of_mem_image hdomain hmem himage List.mem_cons_self hascii hplain hdot

/-! ## White space -/

theorem takesMarks_of_le (hlow : c.toNat ≤ 0x20) : Text.takesMarks c = false := by
  have halpha : c.isAlpha = false := by
    rw [← Bool.not_eq_true, Text.isAlpha_iff]
    omega
  have hsign : "<=>".toList.contains c = false := by
    rw [← Bool.not_eq_true, List.contains_iff_mem]
    intro hmem
    have hall : "<=>".toList.all (fun c => 0x20 < c.toNat) = true := by decide
    have hhigh := of_decide_eq_true (List.all_eq_true.mp hall c hmem)
    omega
  have hascii : decide (0x80 ≤ c.toNat) = false := decide_eq_false (by omega)
  rw [Text.takesMarks, hascii, halpha, hsign, Bool.or_false, Bool.or_false]

/-- The white space beyond ASCII. -/
def wideSpaces : List Char :=
  ['\u0085', '\u00A0', '\u1680', '\u2000', '\u2001', '\u2002', '\u2003', '\u2004', '\u2005',
    '\u2006', '\u2007', '\u2008', '\u2009', '\u200A', '\u2028', '\u2029', '\u202F', '\u205F',
    '\u3000']

theorem mem_wideSpaces (hspace : Text.isSpace c = true) (hascii : ¬ c.toNat < 0x80) :
    c ∈ wideSpaces := by
  have hcode : c.toNat ∈ wideSpaces.map Char.toNat := by
    simp only [Text.isSpace, Bool.or_eq_true, Bool.and_eq_true, decide_eq_true_eq, beq_iff_eq]
      at hspace
    simp only [wideSpaces, List.map_cons, List.map_nil, List.mem_cons, List.not_mem_nil, or_false,
      Char.reduceToNat]
    omega
  obtain ⟨d, hd, hsame⟩ := List.mem_map.mp hcode
  rwa [← Char.toNat_inj.mp hsame]

/-- White space beyond ASCII stands for a blank or may not stand in a name. -/
theorem mapChar?_of_mem_wideSpaces {image : List Char} (hmem : c ∈ wideSpaces)
    (himage : mapChar? c = some image) : image = [' '] := by
  have hall : wideSpaces.all (fun c => (mapChar? c).all (· == [' '])) = true := by
    decide +kernel
  have hblank := List.all_eq_true.mp hall c hmem
  rwa [himage, Option.all_some, beq_iff_eq] at hblank

theorem exists_low_of_isSpace (hdomain : domainToAscii? refused domain = some ascii)
    (hmem : c ∈ domain) (hspace : Text.isSpace c = true) : ∃ d ∈ ascii, d.toNat ≤ 0x20 := by
  obtain ⟨images, -, himages, -⟩ := domainToAscii?_eq_some.mp hdomain
  obtain ⟨image, -, himage⟩ := Text.exists_of_forall₂ himages hmem
  obtain ⟨d, hd, hlow⟩ : ∃ d ∈ image, d.toNat ≤ 0x20 := by
    by_cases hascii : c.toNat < 0x80
    · have hlow : c.toNat ≤ 0x20 := by
        simp only [Text.isSpace, Bool.or_eq_true, Bool.and_eq_true, decide_eq_true_eq, beq_iff_eq]
          at hspace
        omega
      rw [mapChar?_of_ascii hascii, Text.toLower_eq_self (.inl (by omega)), Option.some.injEq]
        at himage
      exact ⟨c, himage ▸ List.mem_cons_self, hlow⟩
    · have hblank := mapChar?_of_mem_wideSpaces (mem_wideSpaces hspace hascii) himage
      exact ⟨' ', hblank ▸ List.mem_cons_self, by decide⟩
  have hdot : d ≠ '.' := by
    rintro rfl
    exact absurd hlow (by decide)
  exact ⟨d, mem_of_mem_image hdomain hmem himage hd (by omega) (takesMarks_of_le hlow) hdot, hlow⟩

/-! ## A dot in front -/

theorem labelOf?_nil : labelOf? [] = some [] := by
  decide +kernel

theorem domainToAscii?_nil : domainToAscii? (fun _ => false) [] = some [] :=
  domainToAscii?_eq_some.mpr
    ⟨[], [[]], .nil, .cons labelOf?_nil .nil, by decide +kernel, by decide +kernel, by simp⟩

/-- An empty label in front stays an empty label. -/
theorem domainToAscii?_dot (hdomain : domainToAscii? refused ('.' :: domain) = some ascii) :
    ∃ rest, ascii = '.' :: rest ∧ domainToAscii? (fun _ => false) domain = some rest := by
  obtain ⟨images, labels, himages, hlabels, hdirection, rfl, -⟩ :=
    domainToAscii?_eq_some.mp hdomain
  cases himages with
  | @cons _ image _ images hdot himages =>
      have hascii : '.'.toNat < 0x80 := by decide
      rw [mapChar?_of_ascii hascii, Option.some.injEq] at hdot
      have hcomposed : Text.composed (image :: images).flatten =
          '.' :: Text.composed images.flatten := by
        rw [← hdot]
        exact Text.composed_cons (Text.isInert_of_ascii hascii (by decide)) _
      have hsplit : Text.splitAt '.' ('.' :: Text.composed images.flatten) =
          [] :: Text.splitAt '.' (Text.composed images.flatten) :=
        Text.splitWhere_cons_of_pos (p := (· == '.')) rfl _
      rw [hcomposed, hsplit] at hlabels
      cases hlabels with
      | @cons _ label _ labels hlabel hlabels =>
          rw [labelOf?_nil, Option.some.injEq] at hlabel
          subst hlabel
          have hne : labels.map labelToAscii ≠ [] := by
            intro hnil
            rw [List.map_eq_nil_iff] at hnil
            subst hnil
            have hnone := List.forall₂_nil_right_iff.mp hlabels
            exact Text.splitWhere_ne_nil _ _ hnone
          refine ⟨['.'].intercalate (labels.map labelToAscii), ?_, ?_⟩
          · rw [List.map_cons, List.intercalate_cons_of_ne_nil hne]
            rfl
          · exact domainToAscii?_eq_some.mpr
              ⟨images, labels, himages, hlabels, hdirection, rfl, fun _ _ => rfl⟩

/-- The ASCII form by mapping, composition and Punycode obeys the laws. -/
theorem isLawful_domainToAscii? : ToAscii.IsLawful domainToAscii? where
  unrefused := domainToAscii?_unrefused
  delimiter hdomain _ := delimiter_mem_of_domainToAscii? hdomain
  space hdomain _ := exists_low_of_isSpace hdomain
  nil := domainToAscii?_nil
  dot := domainToAscii?_dot

end StreamLinks.Url
