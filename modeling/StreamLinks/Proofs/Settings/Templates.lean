import Mathlib.Logic.Function.Basic
import StreamLinks.Proofs.Text.Literals
import StreamLinks.Settings.Basic
import StreamLinks.Video.Id

/-!
# URL templates

A template is read in one pass as placeholders and other characters.  A URL with a place for
an identifier alone is filled in like that.  The URL of the information about a video is
filled in twice, and the second pass also sees the identifier: it finds the placeholders of
the template, and whatever looks like one where the identifier stands.
-/

namespace StreamLinks.Template

open Text (occurrences replaceFrom)

/-- What a template has a place for. -/
inductive Placeholder where
  | videoId
  | variant
deriving DecidableEq

/-- The mark of a placeholder behind its opening brace. -/
def Placeholder.tail : Placeholder → List Char
  | .videoId => "video_id\x7d".toList
  | .variant => "variant\x7d".toList

def Placeholder.mark (placeholder : Placeholder) : List Char :=
  '{' :: placeholder.tail

inductive Part where
  | plain (c : Char)
  | hole (placeholder : Placeholder)
deriving DecidableEq

/-- One pass over the template, from left to right, meets these parts. -/
inductive Consists : (template : List Char) → List Part → Prop
  | done : Consists [] []
  | plain {c : Char} {rest : List Char} {parts : List Part}
      (hnone : ∀ placeholder : Placeholder, ¬ placeholder.mark <+: c :: rest)
      (hrest : Consists rest parts) : Consists (c :: rest) (.plain c :: parts)
  | hole (placeholder : Placeholder) {rest : List Char} {parts : List Part}
      (hrest : Consists rest parts) :
      Consists (placeholder.mark ++ rest) (.hole placeholder :: parts)

/-- What stands for a part when the placeholders have values. -/
def Part.text (value : Placeholder → List Char) : Part → List Char
  | .plain c => [c]
  | .hole placeholder => value placeholder

def expand (value : Placeholder → List Char) (parts : List Part) : List Char :=
  parts.flatMap (Part.text value)

def values (id variant : List Char) : Placeholder → List Char
  | .videoId => id
  | .variant => variant

/-- The URL is the template with each placeholder replaced in one pass; what replaces a
placeholder is not looked at again. -/
def IsExpansion (template id variant url : String) : Prop :=
  ∃ parts, Consists template.toList parts ∧
    url.toList = expand (values id.toList variant.toList) parts

/-- With the identifier in it, the template has more places for the variant than without. -/
def MakesPlaceholder (template id : String) : Prop :=
  occurrences Placeholder.variant.mark template.toList <
    occurrences Placeholder.variant.mark
      (Text.replaceAll template "\x7bvideo_id\x7d" id).toList

instance (template id : String) : Decidable (MakesPlaceholder template id) :=
  inferInstanceAs (Decidable (_ < _))

variable {template : List Char} {parts : List Part}

/-! ## One pass -/

theorem Placeholder.mark_eq (placeholder : Placeholder) :
    placeholder.mark = '{' :: placeholder.tail := rfl

theorem Placeholder.startsOnce (placeholder : Placeholder) :
    Text.StartsOnce placeholder.mark := by
  have hbrace : '{' ∉ placeholder.tail := by
    cases placeholder <;> decide +kernel
  exact hbrace

theorem Placeholder.eq_of_starts {placeholder other : Placeholder} {rest : List Char}
    (hstarts : placeholder.mark <+: other.mark ++ rest) : placeholder = other := by
  have hvideoId : Placeholder.videoId.mark = '{' :: 'v' :: 'i' :: "deo_id\x7d".toList := by
    decide +kernel
  have hvariant : Placeholder.variant.mark = '{' :: 'v' :: 'a' :: "riant\x7d".toList := by
    decide +kernel
  cases placeholder <;> cases other <;> simp_all [List.cons_prefix_cons]

theorem exists_consists (template : List Char) : ∃ parts, Consists template parts := by
  induction hn : template.length using Nat.strongRecOn generalizing template with
  | _ n ih =>
      cases template with
      | nil => exact ⟨[], .done⟩
      | cons c rest =>
          by_cases hsome : ∃ placeholder : Placeholder, placeholder.mark <+: c :: rest
          · obtain ⟨placeholder, behind, hbehind⟩ := hsome
            have hlength := congrArg List.length hbehind
            rw [List.length_append, hn, Placeholder.mark, List.length_cons] at hlength
            obtain ⟨parts, hparts⟩ := ih behind.length (by omega) behind rfl
            rw [← hbehind]
            exact ⟨_, .hole placeholder hparts⟩
          · rw [List.length_cons] at hn
            obtain ⟨parts, hparts⟩ := ih rest.length (by omega) rest rfl
            exact ⟨_, .plain (not_exists.mp hsome) hparts⟩

theorem Consists.unique {other : List Part} (hconsists : Consists template parts)
    (hother : Consists template other) : parts = other := by
  induction hconsists generalizing other with
  | done =>
      generalize htemplate : [] = text at hother
      cases hother with
      | done => rfl
      | plain => cases htemplate
      | hole => cases htemplate
  | @plain c rest parts hnone hrest ih =>
      generalize htemplate : c :: rest = text at hother
      cases hother with
      | done => cases htemplate
      | plain hnone' hrest' =>
          obtain ⟨rfl, rfl⟩ := List.cons.inj htemplate
          rw [ih hrest']
      | hole placeholder hrest' => exact (hnone placeholder ⟨_, htemplate.symm⟩).elim
  | @hole placeholder rest parts hrest ih =>
      generalize htemplate : placeholder.mark ++ rest = text at hother
      cases hother with
      | done => cases htemplate
      | plain hnone' hrest' => exact (hnone' placeholder ⟨_, htemplate⟩).elim
      | hole placeholder' hrest' =>
          obtain rfl := Placeholder.eq_of_starts ⟨_, htemplate⟩
          rw [ih (List.append_cancel_left htemplate ▸ hrest')]

/-- Each template has one expansion. -/
theorem existsUnique_expansion (template id variant : String) :
    ∃! url, IsExpansion template id variant url := by
  obtain ⟨parts, hparts⟩ := exists_consists template.toList
  refine ⟨String.ofList (expand (values id.toList variant.toList) parts),
    ⟨parts, hparts, String.toList_ofList⟩, ?_⟩
  rintro url ⟨other, hother, hurl⟩
  rw [hparts.unique hother, ← hurl, String.ofList_toList]

/-! ## Replacing one placeholder -/

/-- Replacing the mark of a placeholder is a pass that leaves the other one as it is. -/
theorem Consists.replaceFrom_mark (hconsists : Consists template parts)
    (placeholder : Placeholder) (value : List Char) :
    replaceFrom placeholder.mark value 0 template =
      expand (Function.update Placeholder.mark placeholder value) parts := by
  induction hconsists with
  | done => rfl
  | plain hnone hrest ih =>
      rw [Text.replaceFrom_of_not_starts (hnone placeholder), ih]
      rfl
  | @hole other rest parts hrest ih =>
      have hbehind : expand (Function.update Placeholder.mark placeholder value)
          (.hole other :: parts) = Function.update Placeholder.mark placeholder value other ++
            expand (Function.update Placeholder.mark placeholder value) parts := rfl
      rw [hbehind, ← ih]
      by_cases hsame : other = placeholder
      · rw [hsame, Function.update_self]
        exact Text.replaceFrom_literal _ _ _ _
      · have hnone : ¬ placeholder.mark <+: '{' :: (other.tail ++ rest) :=
          fun h => hsame (Placeholder.eq_of_starts h).symm
        rw [Function.update_of_ne hsame, other.mark_eq, List.cons_append,
          Text.replaceFrom_of_not_starts hnone, placeholder.mark_eq,
          Text.replaceFrom_front other.startsOnce]
        rfl

/-! ## Two passes -/

section

variable {id value : List Char}

theorem expand_append (value : Placeholder → List Char) (front back : List Part) :
    expand value (front ++ back) = expand value front ++ expand value back :=
  List.flatMap_append

theorem expand_cons (value : Placeholder → List Char) (part : Part) (back : List Part) :
    expand value (part :: back) = part.text value ++ expand value back :=
  List.flatMap_cons

theorem update_mark_videoId (id : List Char) :
    Function.update Placeholder.mark .videoId id = values id Placeholder.variant.mark := by
  funext placeholder
  cases placeholder <;> rfl

/-- Without a place for a variant it does not matter which one there is. -/
theorem expand_of_no_hole (hnone : .hole .variant ∉ parts) (value' : List Char) :
    expand (values id value) parts = expand (values id value') parts := by
  apply List.flatMap_congr
  intro part hpart
  cases part with
  | plain c => rfl
  | hole placeholder =>
      cases placeholder with
      | videoId => rfl
      | variant => exact (hnone hpart).elim

/-- Parts are taken apart at the places for the variant. -/
theorem parts_induction {motive : List Part → Prop}
    (hlast : ∀ parts, .hole .variant ∉ parts → motive parts)
    (hmore : ∀ front back, .hole .variant ∉ front → motive back →
      motive (front ++ .hole .variant :: back)) (parts : List Part) : motive parts := by
  induction hn : parts.length using Nat.strongRecOn generalizing parts with
  | _ n ih =>
      by_cases hhole : .hole .variant ∈ parts
      · obtain ⟨front, back, rfl, hfront⟩ := List.eq_append_cons_of_mem hhole
        rw [List.length_append, List.length_cons] at hn
        exact hmore front back hfront (ih back.length (by omega) back rfl)
      · exact hlast parts hhole

/-- The template with the identifier in it. -/
def filled (id : List Char) (parts : List Part) : List Char :=
  expand (values id Placeholder.variant.mark) parts

theorem filled_append (id : List Char) (front back : List Part) :
    filled id (front ++ .hole .variant :: back) =
      filled id front ++ (Placeholder.variant.mark ++ filled id back) := by
  rw [filled, expand_append, expand_cons]
  rfl

theorem occurrences_filled_append (id : List Char) (front back : List Part) :
    occurrences Placeholder.variant.mark (filled id (front ++ .hole .variant :: back)) =
      occurrences Placeholder.variant.mark (filled id front) + 1 +
        occurrences Placeholder.variant.mark (filled id back) := by
  rw [filled_append]
  exact (Placeholder.startsOnce .variant).occurrences_append _ _

theorem count_hole_append {front : List Part} (hfront : .hole .variant ∉ front)
    (back : List Part) :
    (front ++ .hole .variant :: back).count (.hole .variant) =
      back.count (.hole .variant) + 1 := by
  rw [List.count_append, List.count_eq_zero_of_not_mem hfront, List.count_cons_self]
  omega

/-- No place for the variant is lost when the identifier is put in. -/
theorem count_hole_le (id : List Char) (parts : List Part) :
    parts.count (.hole .variant) ≤ occurrences Placeholder.variant.mark (filled id parts) := by
  induction parts using parts_induction with
  | hlast parts hnone =>
      rw [List.count_eq_zero_of_not_mem hnone]
      exact Nat.zero_le _
  | hmore front back hfront ih =>
      rw [count_hole_append hfront, occurrences_filled_append]
      omega

theorem length_expand (id value : List Char) (parts : List Part) :
    (expand (values id value) parts).length +
        Placeholder.variant.mark.length * parts.count (.hole .variant) =
      (filled id parts).length + value.length * parts.count (.hole .variant) := by
  induction parts using parts_induction with
  | hlast parts hnone =>
      rw [List.count_eq_zero_of_not_mem hnone, filled, expand_of_no_hole hnone]
      rfl
  | hmore front back hfront ih =>
      rw [count_hole_append hfront, filled_append, expand_append, expand_cons, filled,
        expand_of_no_hole hfront Placeholder.variant.mark]
      simp only [List.length_append, Nat.mul_add, Part.text, values]
      omega

/-- Where only the places of the template are found, a second pass fills in what one pass
would have filled in. -/
theorem replaceFrom_filled
    (hcount : occurrences Placeholder.variant.mark (filled id parts) =
      parts.count (.hole .variant)) :
    replaceFrom Placeholder.variant.mark value 0 (filled id parts) =
      expand (values id value) parts := by
  induction parts using parts_induction with
  | hlast parts hnone =>
      rw [List.count_eq_zero_of_not_mem hnone] at hcount
      exact (Text.replaceFrom_of_no_occurrence hcount value).trans (expand_of_no_hole hnone value)
  | hmore front back hfront ih =>
      have hle := count_hole_le id back
      rw [count_hole_append hfront, occurrences_filled_append] at hcount
      have hnone : occurrences Placeholder.variant.mark (filled id front) = 0 := by omega
      rw [filled_append, (Placeholder.startsOnce .variant).replaceFrom_append,
        Text.replaceFrom_of_no_occurrence hnone, ih (by omega), expand_append, expand_cons,
        filled, expand_of_no_hole hfront value]
      rfl

theorem mark_or_count_of_length_eq
    (hlength : value.length = Placeholder.variant.mark.length)
    (hsame : replaceFrom Placeholder.variant.mark value 0 (filled id parts) =
      expand (values id value) parts) :
    value = Placeholder.variant.mark ∨
      occurrences Placeholder.variant.mark (filled id parts) = parts.count (.hole .variant) := by
  have hmark := Placeholder.startsOnce .variant
  induction parts using parts_induction with
  | hlast parts hnone =>
      rw [expand_of_no_hole hnone Placeholder.variant.mark, ← filled] at hsame
      rw [List.count_eq_zero_of_not_mem hnone]
      exact (hmark.replaceFrom_eq_self_iff hlength).mp hsame
  | hmore front back hfront ih =>
      have hfilled := hmark.length_replaceFrom value (filled id front)
      rw [hlength, Nat.add_right_cancel_iff] at hfilled
      rw [filled_append, hmark.replaceFrom_append, expand_append, expand_cons,
        expand_of_no_hole hfront Placeholder.variant.mark, ← filled,
        List.append_eq_append_iff_of_size_eq_left hfilled,
        hmark.replaceFrom_eq_self_iff hlength] at hsame
      obtain ⟨hhere, hbehind⟩ := hsame
      rw [occurrences_filled_append, count_hole_append hfront]
      rcases hhere with heq | hnone
      · exact .inl heq
      · rcases ih (List.append_cancel_left hbehind) with heq | hcount
        · exact .inl heq
        · right
          omega

/-- The two passes agree with one pass exactly if the variant stands for itself or the
identifier makes no place for it. -/
theorem replaceFrom_filled_eq_iff :
    replaceFrom Placeholder.variant.mark value 0 (filled id parts) =
        expand (values id value) parts ↔
      value = Placeholder.variant.mark ∨
        occurrences Placeholder.variant.mark (filled id parts) =
          parts.count (.hole .variant) := by
  have hmark := Placeholder.startsOnce .variant
  constructor
  · intro hsame
    by_cases hlength : value.length = Placeholder.variant.mark.length
    · exact mark_or_count_of_length_eq hlength hsame
    · right
      -- Each place more than the template has would show in the length of the URL.
      have hreplaced := hmark.length_replaceFrom value (filled id parts)
      have hexpanded := length_expand id value parts
      obtain ⟨more, hmore⟩ := Nat.exists_eq_add_of_le (count_hole_le id parts)
      rw [hsame, hmore, Nat.mul_add, Nat.mul_add] at hreplaced
      have hrest : Placeholder.variant.mark.length * more = value.length * more := by omega
      rcases Nat.eq_zero_or_pos more with hnone | hpos
      · rw [hmore, hnone, Nat.add_zero]
      · exact (hlength (Nat.eq_of_mul_eq_mul_right hpos hrest).symm).elim
  · rintro (rfl | hcount)
    · exact (hmark.replaceFrom_eq_self_iff rfl).mpr (.inl rfl)
    · exact replaceFrom_filled hcount

end

theorem Consists.occurrences_eq (hconsists : Consists template parts) :
    occurrences Placeholder.variant.mark template = parts.count (.hole .variant) := by
  induction hconsists with
  | done => rfl
  | plain hnone hrest ih =>
      rw [Text.occurrences_cons_of_not_starts (hnone .variant), ih,
        List.count_cons_of_ne (by simp)]
  | @hole placeholder rest parts hrest ih =>
      cases placeholder with
      | videoId =>
          have hnone : ¬ Placeholder.variant.mark <+: Placeholder.videoId.mark ++ rest := by
            intro h
            cases Placeholder.eq_of_starts h
          rw [Placeholder.mark_eq .videoId, List.cons_append] at hnone ⊢
          rw [Text.occurrences_cons_of_not_starts hnone, Placeholder.mark_eq,
            Text.occurrences_front (Placeholder.startsOnce .videoId), ← Placeholder.mark_eq, ih,
            List.count_cons_of_ne (by simp)]
      | variant =>
          have hfirst := (Placeholder.startsOnce .variant).occurrences_append [] rest
          rw [List.nil_append] at hfirst
          rw [hfirst, ih, List.count_cons_self]
          exact Nat.add_comm _ _

/-! ## The URLs of the platform -/

theorem toList_mark_videoId : "\x7bvideo_id\x7d".toList = Placeholder.videoId.mark := by
  decide +kernel

theorem toList_mark_variant : "\x7bvariant\x7d".toList = Placeholder.variant.mark := by
  decide +kernel

theorem Consists.toList_replaceAll {template : String} (hconsists : Consists template.toList parts)
    (id : String) :
    (Text.replaceAll template "\x7bvideo_id\x7d" id).toList = filled id.toList parts := by
  rw [Text.replaceAll, String.toList_ofList, toList_mark_videoId, hconsists.replaceFrom_mark,
    update_mark_videoId]
  rfl

theorem Consists.makesPlaceholder_iff {template : String}
    (hconsists : Consists template.toList parts) (id : String) :
    MakesPlaceholder template id ↔ parts.count (.hole .variant) <
      occurrences Placeholder.variant.mark (filled id.toList parts) := by
  rw [MakesPlaceholder, hconsists.occurrences_eq, hconsists.toList_replaceAll]

theorem isExpansion_watchUrlFor (settings : PlatformSettings) (id : String) :
    IsExpansion settings.watchUrl id "\x7bvariant\x7d" (settings.watchUrlFor id) := by
  obtain ⟨parts, hparts⟩ := exists_consists settings.watchUrl.toList
  refine ⟨parts, hparts, ?_⟩
  rw [PlatformSettings.watchUrlFor, hparts.toList_replaceAll, toList_mark_variant]
  rfl

theorem isExpansion_infoUrlFor_iff (settings : PlatformSettings) (id variant : String) :
    IsExpansion settings.infoUrl id variant (settings.infoUrlFor id variant) ↔
      variant = "\x7bvariant\x7d" ∨ ¬ MakesPlaceholder settings.infoUrl id := by
  obtain ⟨parts, hparts⟩ := exists_consists settings.infoUrl.toList
  have hurl : (settings.infoUrlFor id variant).toList =
      replaceFrom Placeholder.variant.mark variant.toList 0 (filled id.toList parts) := by
    rw [PlatformSettings.infoUrlFor, Text.replaceAll, String.toList_ofList,
      hparts.toList_replaceAll, toList_mark_variant]
  have hexpansion : IsExpansion settings.infoUrl id variant (settings.infoUrlFor id variant) ↔
      replaceFrom Placeholder.variant.mark variant.toList 0 (filled id.toList parts) =
        expand (values id.toList variant.toList) parts := by
    rw [← hurl]
    refine ⟨?_, fun hsame => ⟨parts, hparts, hsame⟩⟩
    rintro ⟨other, hother, hsame⟩
    rwa [hparts.unique hother]
  have hle := count_hole_le id.toList parts
  rw [hexpansion, replaceFrom_filled_eq_iff, hparts.makesPlaceholder_iff, ← toList_mark_variant,
    String.toList_inj, toList_mark_variant]
  exact or_congr_right ⟨by omega, by omega⟩

/-- What stands in front of the identifier in the default template, and what stands behind the
variant. -/
def infoFront : List Char :=
  "https://www.youtube.com/get_video_info?&video_id=".toList

def infoBack : List Char :=
  "&ps=default&eurl=&gl=US&hl=en".toList

/-- The default template has nothing around the identifier that could become part of a
placeholder. -/
theorem makesPlaceholder_default_iff (id : String) :
    MakesPlaceholder ({} : PlatformSettings).infoUrl id ↔
      "\x7bvariant\x7d".toList <:+: id.toList := by
  have htemplate : ({} : PlatformSettings).infoUrl.toList =
      infoFront ++ (Placeholder.videoId.mark ++ (Placeholder.variant.mark ++ infoBack)) := by
    decide +kernel
  have hfront : '{' ∉ infoFront := by decide +kernel
  have hback : occurrences Placeholder.variant.mark infoBack = 0 := by decide +kernel
  have hrest : occurrences Placeholder.videoId.mark (Placeholder.variant.mark ++ infoBack) = 0 := by
    decide +kernel
  have hholes :
      occurrences Placeholder.variant.mark ({} : PlatformSettings).infoUrl.toList = 1 := by
    rw [htemplate, Placeholder.mark_eq .variant, Text.occurrences_front hfront]
    decide +kernel
  have hfilled : (Text.replaceAll ({} : PlatformSettings).infoUrl "\x7bvideo_id\x7d" id).toList =
      infoFront ++ (id.toList ++ (Placeholder.variant.mark ++ infoBack)) := by
    rw [Text.replaceAll, String.toList_ofList, htemplate, toList_mark_videoId,
      Placeholder.mark_eq .videoId, Text.replaceFrom_front hfront, Text.replaceFrom_literal,
      ← Placeholder.mark_eq, Text.replaceFrom_of_no_occurrence hrest]
  rw [MakesPlaceholder, hholes, hfilled, toList_mark_variant, ← Text.occurrences_pos_iff,
    Placeholder.mark_eq, Text.occurrences_front hfront, ← Placeholder.mark_eq,
    (Placeholder.startsOnce .variant).occurrences_append, hback]
  omega

/-- The template has one expansion, and the URL of a watch page is that of its own template.
The URL of the information about a video is the expansion unless the identifier makes a
placeholder for a variant that is not its own text.  With the default template the identifiers
that hold the placeholder are the ones that make one. -/
theorem templates_are_expanded_once (settings : PlatformSettings) (id variant : String) :
    (∃! url, IsExpansion settings.infoUrl id variant url) ∧
    IsExpansion settings.watchUrl id "\x7bvariant\x7d" (settings.watchUrlFor id) ∧
    (IsExpansion settings.infoUrl id variant (settings.infoUrlFor id variant) ↔
      variant = "\x7bvariant\x7d" ∨ ¬ MakesPlaceholder settings.infoUrl id) ∧
    (MakesPlaceholder ({} : PlatformSettings).infoUrl id ↔
      "\x7bvariant\x7d".toList <:+: id.toList) :=
  ⟨existsUnique_expansion settings.infoUrl id variant, isExpansion_watchUrlFor settings id,
    isExpansion_infoUrlFor_iff settings id variant, makesPlaceholder_default_iff id⟩

/-- The identifier stands in the URL as the variant, which the expansion of the template has
only once. -/
theorem identifiers_are_taken_for_placeholders :
    (VideoId.ofString? "\x7bvariant\x7d").map VideoId.text = some "\x7bvariant\x7d" ∧
    ({} : PlatformSettings).infoUrlFor "\x7bvariant\x7d" "&el=vevo" =
      "https://www.youtube.com/get_video_info?&video_id=&el=vevo&el=vevo"
        ++ "&ps=default&eurl=&gl=US&hl=en" ∧
    ¬ IsExpansion ({} : PlatformSettings).infoUrl "\x7bvariant\x7d" "&el=vevo"
      (({} : PlatformSettings).infoUrlFor "\x7bvariant\x7d" "&el=vevo") := by
  refine ⟨by decide +kernel, by decide +kernel, ?_⟩
  rw [isExpansion_infoUrlFor_iff, makesPlaceholder_default_iff]
  decide +kernel

end StreamLinks.Template
