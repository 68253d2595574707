import StreamLinks.Proofs.Cipher.Bodies
import StreamLinks.Proofs.Cipher.Cache
import StreamLinks.Proofs.Text.Trimming

/-!
# Where the characters of a result come from

A script can write numbers into a sequence and nothing else: it has no quoted
text but the empty one.  So every character of a deciphered text is a digit or
stands in the scrambled text.  The sign of negative numbers needs care, since an
integer may be negative without having been written yet: a value counts as made of
a text only if the text holds a minus sign or the value is not negative.  Scripts
mention no negative integer and remainders take the sign of the dividend, so a
negative one can only have been read from a text with that sign in it.
-/

namespace StreamLinks.Cipher

/-- The character may stand in a text that is made of `source`. -/
def MayStand (source : List Char) (c : Char) : Prop :=
  c ∈ source ∨ c.isDigit = true

/-- The value is made of the characters of `source` and of digits. -/
def MadeOf (source : List Char) : Value → Prop
  | .int n => n.toInt < 0 → '-' ∈ source
  | .str text => ∀ c ∈ text.toList, MayStand source c
  | .seq items => ∀ item ∈ items, ∀ c ∈ item.toList, MayStand source c

variable {source : List Char}

theorem minus_mem_of_mayStand (h : MayStand source '-') : '-' ∈ source := by
  rcases h with hmem | hdigit
  · exact hmem
  · exact absurd hdigit (by decide)

theorem count_nonneg (parts : Nat) : 0 ≤ (Value.count parts).toInt := by
  have hmin : Int64.minValue.toInt ≤ (parts : Int) := by
    have hneg : Int64.minValue.toInt ≤ 0 := by decide
    omega
  unfold Value.count Int64.ofIntClamp
  rw [dif_pos hmin]
  split
  · simp
  · decide

theorem mem_of_elementAt {α : Type} {items : List α} {index : Int64} {item : α}
    (h : Value.elementAt items index = .ok item) : item ∈ items := by
  unfold Value.elementAt at h
  split at h
  · cases h
  · split at h
    next found hfound =>
      cases h
      exact List.mem_of_getElem? hfound
    next => cases h

namespace MadeOf

/-- A value stands for a negative integer only where its sign may stand. -/
theorem toInt {v : Value} (hv : MadeOf source v) {operation : Operation} {n : Int64}
    (hn : v.toInt operation = .ok n) : MadeOf source (.int n) := by
  intro hneg
  cases v with
  | int m =>
      cases hn
      exact hv hneg
  | str text =>
      simp only [Value.toInt] at hn
      split at hn
      next m hread =>
        cases hn
        have hminus := Text.minus_mem_of_readInt64?_neg hread hneg
        exact minus_mem_of_mayStand (hv '-' ((Text.trim_sublist _).mem hminus))
      next => cases hn
  | seq items => cases hn

theorem remainder {v w : Value} {m n : Int64} (hv : MadeOf source v)
    (hm : v.toInt .modulo = .ok m) (hw : Value.remainder m n = .ok w) : MadeOf source w := by
  unfold Value.remainder at hw
  split at hw
  · cases hw
  · cases hw
    intro hneg
    apply hv.toInt hm
    by_contra hnonneg
    have hrem := Int.tmod_nonneg n.toInt (Int.not_lt.mp hnonneg)
    rw [Int64.toInt_mod] at hneg
    omega

theorem toElement {v : Value} (hv : MadeOf source v) {item : String}
    (hitem : v.toElement = .ok item) : ∀ c ∈ item.toList, MayStand source c := by
  cases v with
  | int n =>
      cases hitem
      intro c hc
      rcases Text.mem_writeInt64 hc with hdigit | ⟨rfl, hneg⟩
      · exact .inr hdigit
      · exact .inl (hv hneg)
  | str text =>
      cases hitem
      exact hv
  | seq items => cases hitem

theorem itemAt {v w : Value} {index : Int64} (hv : MadeOf source v)
    (hw : v.itemAt index = .ok w) : MadeOf source w := by
  cases v with
  | int n => cases hw
  | str text =>
      obtain ⟨c, hc, rfl⟩ := map_eq_ok.mp hw
      have hmem := mem_of_elementAt hc
      simpa [MadeOf] using hv c hmem
  | seq items =>
      obtain ⟨item, hitem, rfl⟩ := map_eq_ok.mp hw
      exact hv item (mem_of_elementAt hitem)

theorem replaceElement {items : List String} {item : String} {position : Nat}
    (hitems : MadeOf source (.seq items)) (hitem : ∀ c ∈ item.toList, MayStand source c) :
    MadeOf source (.seq (Value.replaceElement items position item)) := by
  intro other hother
  rcases List.mem_or_eq_of_mem_set hother with hmem | rfl
  · rcases List.mem_append.mp hmem with hold | hempty
    · exact hitems other hold
    · rw [List.eq_of_mem_replicate hempty]
      simp
  · exact hitem

end MadeOf

/-- All values are made of one text, and scripts write no negative integer. -/
def provenance (script : String) (source : List Char) : Discipline where
  value := MadeOf source
  literal n := 0 ≤ n.toInt
  programs := FaithfulTo script
  int_of_literal hn hneg := absurd hneg (Int.not_lt.mpr hn)
  split {v w} hv hw := by
    cases v with
    | str text =>
        cases hw
        intro item hitem
        obtain ⟨c, hc, rfl⟩ := List.mem_map.mp hitem
        simpa using hv c hc
    | int n => cases hw
    | seq items => cases hw
  reverse {v w} hv hw := by
    cases v with
    | seq items =>
        cases hw
        intro item hitem
        exact hv item (List.mem_reverse.mp hitem)
    | int n => cases hw
    | str text => cases hw
  join {v w} hv hw := by
    cases v with
    | seq items =>
        cases hw
        intro c hc
        rw [String.toList_join] at hc
        obtain ⟨item, hitem, hc⟩ := List.mem_flatMap.mp hc
        exact hv item hitem c hc
    | int n => cases hw
    | str text => cases hw
  length {v w} hv hw := by
    cases v with
    | int n => cases hw
    | str text =>
        cases hw
        exact fun hneg => absurd hneg (Int.not_lt.mpr (count_nonneg _))
    | seq items =>
        cases hw
        exact fun hneg => absurd hneg (Int.not_lt.mpr (count_nonneg _))
  slice {v w start} hv hw := by
    cases v with
    | int n => cases hw
    | str text =>
        cases hw
        intro c hc
        rw [String.toList_ofList] at hc
        exact hv c (List.mem_of_mem_drop hc)
    | seq items =>
        cases hw
        intro item hitem
        exact hv item (List.mem_of_mem_drop hitem)
  itemAt := MadeOf.itemAt
  remainder := MadeOf.remainder
  emptySeq := by simp [MadeOf]
  replaceElement hitems hv hitem := hitems.replaceElement (hv.toElement hitem)

theorem callWithin_keeps_provenance (script : String) (source : List Char)
    (limit frames : Nat) : (callWithin script limit frames).Keeps (provenance script source) := by
  refine callWithin_keeps ?_ limit frames
  intro name programs hfaithful
  obtain ⟨hresult, hafter⟩ := FaithfulTo.program hfaithful name
  refine ⟨hafter, ?_⟩
  intro function hfunction n hn
  rw [hresult] at hfunction
  exact literals_nonneg_of_loadFunction hfunction hn

namespace Interpreter

/-- Whatever the script and whatever it was asked before, a deciphered text has only
digits and characters of the scrambled text in it. -/
theorem decipher_adds_only_digits (script : String) (limit : Nat) (requests : List Request)
    {name scrambled out : String}
    (hout : (((fresh script limit).performAll requests).2.decipher name scrambled).1 =
      .ok out) :
    (∀ c ∈ out.toList, c ∈ scrambled.toList ∨ c.isDigit = true) ∧
      ('-' ∈ out.toList → '-' ∈ scrambled.toList) := by
  have hstart := fresh_serves script limit
  obtain ⟨_, hserves⟩ := performAll_agrees requests hstart hstart
  simp only [decipher, call, callAt, hserves.caller_eq] at hout
  obtain ⟨value, hvalue, hresult⟩ := bind_eq_ok.mp hout
  have hargs : ∀ v ∈ [Value.str scrambled], MadeOf scrambled.toList v := by
    simp only [List.forall_mem_singleton]
    exact fun c hc => .inl hc
  have hmade := (callWithin_keeps_provenance script scrambled.toList limit (limit - 0) name _
    hargs _ hserves.faithful).2 value hvalue
  have hout : ∀ c ∈ out.toList, MayStand scrambled.toList c := by
    cases value with
    | str text =>
        cases hresult
        exact hmade
    | int n => cases hresult
    | seq items => cases hresult
  exact ⟨hout, fun hminus => minus_mem_of_mayStand (hout '-' hminus)⟩

/-- A script that puts the length of the text in place of its first character. -/
theorem decipher_writes_length :
    let script := "function f(a)\x7ba=a.split(\"\");a[0]=a.length;return a.join(\"\")\x7d"
    (((fresh script 50).performAll []).2.decipher "f" "x-y").1 = .ok "3-y" ∧
      (∀ c ∈ "3-y".toList, c ∈ "x-y".toList ∨ c.isDigit = true) ∧
      ('-' ∈ "3-y".toList → '-' ∈ "x-y".toList) := by
  intro script
  have hout : (((fresh script 50).performAll []).2.decipher "f" "x-y").1 = .ok "3-y" := by
    decide +kernel
  exact ⟨hout, decipher_adds_only_digits script 50 [] hout⟩

end Interpreter

end StreamLinks.Cipher
