import StreamLinks.Proofs.Verbatim
import StreamLinks.Stream.Link

/-!
# Signatures in URLs

A signature is put at the end of a URL as it is.  In the query of that URL it is the last
parameter, so the query gives it back as long as no ampersand divides it and none of its
characters is read as something else; the other parameters stay what they were.
-/

namespace StreamLinks

open Query (IsPlainValue)

/-- The text behind the first question mark of a URL, if there is one. -/
def queryOf (url : String) : String :=
  String.ofList (((Text.cutAt? '?' url.toList).map Prod.snd).getD [])

/-- The query of the URL with the signature has the signature, and apart from it what the
query of the URL has. -/
structure ReadsBack (url signature : String) : Prop where
  signature_eq : (Query.parse (queryOf (appendSignature url signature))).get? "signature" =
    some signature
  others_eq : ∀ key, key ≠ "signature" →
    (Query.parse (queryOf (appendSignature url signature))).get? key =
      (Query.parse (queryOf url)).get? key

variable {url signature : String} {first : List Char} {others : List (List Char)}

/-! ## The pieces of the query -/

theorem toList_appendSignature (url signature : String) :
    (appendSignature url signature).toList =
      url.toList ++ (if '?' ∈ url.toList then '&' else '?') ::
        ("signature=".toList ++ signature.toList) := by
  unfold appendSignature
  by_cases hquery : '?' ∈ url.toList <;> simp [hquery]

theorem toList_queryOf_appendSignature (url signature : String) :
    (queryOf (appendSignature url signature)).toList =
      (if '?' ∈ url.toList then (queryOf url).toList ++ ['&'] else []) ++
        ("signature=".toList ++ signature.toList) := by
  unfold queryOf
  rw [String.toList_ofList, String.toList_ofList, toList_appendSignature]
  cases hcut : Text.cutAt? '?' url.toList with
  | none =>
      have hquery := Text.cutAt?_eq_none.mp hcut
      have hwhole : Text.cutAt? '?' (url.toList ++ '?' ::
          ("signature=".toList ++ signature.toList)) =
            some (url.toList, "signature=".toList ++ signature.toList) :=
        Text.cutAt?_eq_some.mpr ⟨rfl, hquery⟩
      rw [if_neg hquery, if_neg hquery, hwhole]
      rfl
  | some parts =>
      obtain ⟨before, after⟩ := parts
      obtain ⟨hurl, hbefore⟩ := Text.cutAt?_eq_some.mp hcut
      have hquery : '?' ∈ url.toList := by simp [hurl]
      have hwhole : Text.cutAt? '?' (url.toList ++ '&' ::
          ("signature=".toList ++ signature.toList)) =
            some (before, after ++ '&' :: ("signature=".toList ++ signature.toList)) :=
        Text.cutAt?_eq_some.mpr ⟨by simp [hurl], hbefore⟩
      rw [if_pos hquery, if_pos hquery, hwhole]
      simp

/-- The pieces that are read are those of the query of the URL, and behind them those of
the signature. -/
theorem read_pieces_appendSignature (hsplit : Text.splitAt '&' signature.toList = first :: others) :
    (Text.splitAt '&' (queryOf (appendSignature url signature)).toList).filterMap
        Query.readPiece? =
      (Text.splitAt '&' (queryOf url).toList).filterMap Query.readPiece? ++
        (("signature=".toList ++ first) :: others).filterMap Query.readPiece? := by
  have hname : '&' ∉ "signature=".toList := by decide +kernel
  have hpieces : Text.splitAt '&' ("signature=".toList ++ signature.toList) =
      ("signature=".toList ++ first) :: others := Text.splitAt_append_front hname hsplit
  rw [toList_queryOf_appendSignature]
  by_cases hquery : '?' ∈ url.toList
  · rw [if_pos hquery, List.append_assoc, List.singleton_append,
      Text.splitAt_append_separator, hpieces, List.filterMap_append]
  · have hnone : (queryOf url).toList = [] := by
      simp [queryOf, Text.cutAt?_eq_none.mpr hquery]
    have hempty : (Text.splitAt '&' []).filterMap Query.readPiece? = [] := rfl
    rw [if_neg hquery, hnone, hempty, List.nil_append, List.nil_append, hpieces]

/-- The first piece of the signature is the one that is named. -/
theorem readPiece?_signature (first : List Char) :
    Query.readPiece? ("signature=".toList ++ first) =
      (Text.decode? (Query.formBytes first)).map fun value => ("signature", value) := by
  have hname : "signature=".toList = "signature".toList ++ ['='] := by decide +kernel
  have hkey : Query.IsVerbatim "signature".toList :=
    ⟨by decide +kernel, Query.not_hasEscape_of_not_mem (by decide +kernel)⟩
  have hdecode : Text.decode? (Query.formBytes "signature".toList) = some "signature" := by
    rw [hkey.decode?_eq, String.ofList_toList]
  rw [hname, List.append_assoc, List.singleton_append]
  exact Query.readPiece?_of_key (by decide +kernel) hdecode first

/-! ## Reading signatures back -/

theorem readsBack_of_plain (hplain : IsPlainValue signature.toList) (url : String) :
    ReadsBack url signature := by
  have hsplit : Text.splitAt '&' signature.toList = [signature.toList] :=
    Text.splitAt_of_not_mem hplain.whole
  have hread : Query.readPiece? ("signature=".toList ++ signature.toList) =
      some ("signature", signature) := by
    rw [readPiece?_signature, hplain.verbatim.decode?_eq, String.ofList_toList, Option.map_some]
  have hparse : Query.parse (queryOf (appendSignature url signature)) =
      (Query.parse (queryOf url)).put "signature" signature := by
    rw [Query.parse, Query.parse, Query.filterMap_rawPairs, Query.filterMap_rawPairs,
      read_pieces_appendSignature hsplit, List.filterMap_cons_some hread, List.filterMap_nil,
      Dictionary.ofPairs_concat]
  constructor
  · rw [hparse, Dictionary.get?_put, if_pos rfl]
  · intro key hkey
    rw [hparse, Dictionary.get?_put, if_neg hkey]

/-- A piece that is read with as many graphic characters as the whole signature has is not
divided from anything. -/
theorem whole_of_piece {piece : List Char} (hpiece : piece ∈ Text.splitAt '&' signature.toList)
    (hgraphics : Query.graphics signature.toList ≤ Query.graphics piece) :
    '&' ∉ signature.toList := by
  have hshorter := Query.graphics_of_mem_splitAt (by decide) hpiece
  rw [← List.count_eq_zero]
  omega

theorem plain_of_first_piece (hsplit : Text.splitAt '&' signature.toList = first :: others)
    (hvalue : Text.decode? (Query.formBytes first) = some signature) :
    IsPlainValue signature.toList := by
  have hbytes := Query.graphics_of_decode? hvalue
  have hle := Query.graphicBytes_formBytes_le first
  have hfirst : first ∈ Text.splitAt '&' signature.toList := by
    rw [hsplit]
    exact List.mem_cons_self
  have hwhole : '&' ∉ signature.toList := whole_of_piece hfirst (by omega)
  have hsame : first = signature.toList := by
    rw [Text.splitAt_of_not_mem hwhole] at hsplit
    exact (List.cons.inj hsplit).1.symm
  rw [hsame] at hbytes
  exact ⟨hwhole, Query.isVerbatim_of_graphicBytes (Nat.le_of_eq hbytes)⟩

theorem not_read_of_other_piece {piece : List Char} {name : String}
    (hsplit : Text.splitAt '&' signature.toList = first :: others) (hpiece : piece ∈ others) :
    Query.readPiece? piece ≠ some (name, signature) := by
  intro hread
  have hmem : piece ∈ Text.splitAt '&' signature.toList := by
    rw [hsplit]
    exact List.mem_cons_of_mem first hpiece
  have hwhole := whole_of_piece hmem (Query.graphics_of_readPiece? hread)
  rw [Text.splitAt_of_not_mem hwhole] at hsplit
  rw [← (List.cons.inj hsplit).2] at hpiece
  cases hpiece

/-- A signature that comes back has no ampersand and is read as it stands: anything else
would have cost it graphic characters. -/
theorem plain_of_readsBack (hnone : (Query.parse (queryOf url)).get? "signature" = none)
    (hback : ReadsBack url signature) : IsPlainValue signature.toList := by
  obtain ⟨piece, hpiece, hread⟩ := Query.exists_piece_of_get?_parse hback.signature_eq
  have hmem : ("signature", signature) ∈
      (Text.splitAt '&' (queryOf (appendSignature url signature)).toList).filterMap
        Query.readPiece? := List.mem_filterMap.mpr ⟨piece, hpiece, hread⟩
  obtain ⟨others, hsplit⟩ := Text.splitAt_eq_cons '&' signature.toList
  rw [read_pieces_appendSignature hsplit, List.mem_append, List.mem_filterMap,
    List.mem_filterMap] at hmem
  rcases hmem with ⟨earlier, hearlier, hread⟩ | ⟨own, hown, hread⟩
  · exact (Query.get?_parse_ne_none hearlier hread hnone).elim
  · rcases List.mem_cons.mp hown with rfl | hother
    · rw [readPiece?_signature, Option.map_eq_some_iff] at hread
      obtain ⟨value, hvalue, hpair⟩ := hread
      cases hpair
      exact plain_of_first_piece hsplit hvalue
    · exact (not_read_of_other_piece hsplit hother hread).elim

/-- A signature without marks is given back by the query of the URL that it is put into,
which apart from it says what it said before.  No other signature is given back, unless the
URL had one already. -/
theorem signature_read_back (url signature : String) :
    (IsPlainValue signature.toList → ReadsBack url signature) ∧
      ((Query.parse (queryOf url)).get? "signature" = none → ReadsBack url signature →
        IsPlainValue signature.toList) :=
  ⟨fun hplain => readsBack_of_plain hplain url, plain_of_readsBack⟩

/-- Letters beyond ASCII, equals signs, and percent signs without digits come back. -/
theorem signature_read_back_of_letters :
    IsPlainValue "é=1%".toList ∧
      (Query.parse (queryOf "https://a/v?x=1")).get? "signature" = none ∧
      ReadsBack "https://a/v?x=1" "é=1%" := by
  have hplain : IsPlainValue "é=1%".toList :=
    ⟨by decide +kernel, Query.isVerbatim_of_graphicBytes (by decide +kernel)⟩
  have hnone : (Query.parse (queryOf "https://a/v?x=1")).get? "signature" = none := by
    decide +kernel
  exact ⟨hplain, hnone, (signature_read_back "https://a/v?x=1" "é=1%").1 hplain⟩

/-- An ampersand ends the signature, a plus sign is read as a blank, and an escape as the
character that it writes. -/
theorem marks_are_not_read_back :
    '#' ∉ "https://a".toList ∧ ¬ ReadsBack "https://a" "x&y" ∧ ¬ ReadsBack "https://a" "x+y" ∧
      ¬ ReadsBack "https://a" "x%41" := by
  refine ⟨by decide +kernel, ?_, ?_, ?_⟩
  all_goals
    intro hback
    exact absurd hback.signature_eq (by decide +kernel)

end StreamLinks
