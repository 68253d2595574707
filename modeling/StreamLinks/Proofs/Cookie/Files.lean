import Mathlib.Tactic.MkIffOfInductiveProp
import StreamLinks.Cookie.Line
import StreamLinks.Proofs.Text.Literals
import StreamLinks.Proofs.Text.Trimming

/-!
# What a cookie file is read as

A file has a line for each cookie, and any lines between them that say nothing.  A line is
trimmed before it is cut into columns, which leaves out the end of the line, and with it the
last column when that is empty: the line is then one column short, and says nothing either.
-/

namespace StreamLinks.CookieLine

open Text (IsGap)

/-! ## Lines -/

/-- The text keeps its place between tabs, within a line. -/
@[mk_iff]
structure IsInner (text : List Char) : Prop where
  tab : '\t' ∉ text
  newline : '\n' ∉ text

/-- The text of a column that is looked at. -/
@[mk_iff]
structure IsColumn (text : List Char) : Prop extends IsInner text where
  trimmed : Text.trim text = text

/-- The cookie has columns of its own, the first of which does not make a comment of the
line. -/
@[mk_iff]
structure IsWritable (cookie : CookieLine) : Prop where
  domain : IsColumn cookie.domain.toList
  path : IsColumn cookie.path.toList
  name : IsColumn cookie.name.toList
  value : IsColumn cookie.value.toList
  domain_ne : cookie.domain ≠ ""
  not_comment : cookie.domain.toList.head? ≠ some '#'

instance (text : List Char) : Decidable (IsInner text) :=
  decidable_of_iff' _ (isInner_iff text)

instance (text : List Char) : Decidable (IsColumn text) :=
  decidable_of_iff' _ (isColumn_iff text)

instance (cookie : CookieLine) : Decidable cookie.IsWritable :=
  decidable_of_iff' _ (isWritable_iff cookie)

/-- The columns of the cookie but the last. -/
def frontColumns (cookie : CookieLine) (flag expiry : List Char) : List (List Char) :=
  [cookie.domain.toList, flag, cookie.path.toList,
    (if cookie.secure then "TRUE" else "FALSE").toList, expiry, cookie.name.toList]

/-- The columns of the cookie between tabs. -/
def row (cookie : CookieLine) (flag expiry : List Char) : List Char :=
  ['\t'].intercalate (cookie.frontColumns flag expiry ++ [cookie.value.toList])

/-- What may stand in front of the columns. -/
def IsMark (mark : List Char) : Prop :=
  mark = [] ∨ mark = httpOnlyMark

/-- The line is that of the cookie, whatever its flag and its expiry are. -/
inductive WritesLine (cookie : CookieLine) : (line : List Char) → Prop
  | row {mark flag expiry : List Char} (hmark : IsMark mark) (hcookie : cookie.IsWritable)
      (hflag : IsInner flag) (hexpiry : IsInner expiry) :
      WritesLine cookie (mark ++ cookie.row flag expiry)

/-- The line says nothing. -/
inductive IsSkipped : (line : List Char) → Prop
  | blank {line : List Char} (hblank : IsGap line) : IsSkipped line
  | comment {line : List Char} (hhash : line.head? = some '#')
      (hmark : ¬ httpOnlyMark <+: line) : IsSkipped line
  | short {line : List Char} (hshort : (Text.splitAt '\t' line).length < 7) : IsSkipped line

/-- What may stand in front of the line break. -/
def IsLineEnd (ending : List Char) : Prop :=
  ending = [] ∨ ending = ['\r']

/-- The text has a line for each of the cookies, in their order, and lines that say nothing. -/
inductive WritesFile : List CookieLine → (text : List Char) → Prop
  | done : WritesFile [] []
  | cookie {cookie : CookieLine} {cookies : List CookieLine} {line ending rest : List Char}
      (hline : WritesLine cookie line) (hending : IsLineEnd ending)
      (hrest : WritesFile cookies rest) :
      WritesFile (cookie :: cookies) (line ++ ending ++ '\n' :: rest)
  | skipped {cookies : List CookieLine} {line ending rest : List Char} (hline : IsSkipped line)
      (hnewline : '\n' ∉ line) (hending : IsLineEnd ending) (hrest : WritesFile cookies rest) :
      WritesFile cookies (line ++ ending ++ '\n' :: rest)

variable {cookie : CookieLine} {line ending flag expiry mark : List Char}

theorem IsLineEnd.isGap (hending : IsLineEnd ending) : IsGap ending := by
  rcases hending with rfl | rfl
  · exact Text.isGap_nil
  · simp only [IsGap, List.forall_mem_singleton]
    decide

theorem IsLineEnd.newline_not_mem (hending : IsLineEnd ending) : '\n' ∉ ending := by
  rcases hending with rfl | rfl <;> decide

/-! ## Lines that say nothing -/

theorem content_append_gap {gap : List Char} (hgap : IsGap gap) (line : List Char) :
    content (line ++ gap) = content line := by
  rw [content, Text.trim_append_gap hgap, content]

theorem ofLine?_append_gap {gap : List Char} (hgap : IsGap gap) (line : List Char) :
    ofLine? (line ++ gap) = ofLine? line := by
  rw [ofLine?, content_append_gap hgap, ofLine?]

theorem ofColumns?_of_length_lt {columns : List (List Char)} (hlength : columns.length < 7) :
    ofColumns? columns = none := by
  unfold ofColumns?
  split
  next => simp only [List.length_cons] at hlength; omega
  next => rfl

theorem ofLine?_of_short (hshort : (Text.splitAt '\t' (content line)).length < 7) :
    ofLine? line = none := by
  unfold ofLine?
  split
  next => rfl
  next => rfl
  next => exact ofColumns?_of_length_lt hshort

/-- The line has all of its content. -/
theorem content_sublist (line : List Char) : (content line).Sublist line := by
  have htrim := Text.trim_sublist line
  unfold content
  dsimp only
  cases hafter : Text.after? httpOnlyMark (Text.trim line) with
  | none => exact htrim
  | some rest =>
      rw [Text.after?_eq_some] at hafter
      rw [hafter] at htrim
      exact (List.sublist_append_right _ _).trans htrim

theorem length_splitAt_content_le (line : List Char) :
    (Text.splitAt '\t' (content line)).length ≤ (Text.splitAt '\t' line).length := by
  rw [Text.length_splitAt, Text.length_splitAt]
  exact Nat.add_le_add_right ((content_sublist line).count_le '\t') 1

theorem content_of_trimmed (htrim : Text.trim line = line) (hmark : ¬ httpOnlyMark <+: line) :
    content line = line := by
  rw [content, htrim, Text.after?_eq_none hmark]
  rfl

theorem ofLine?_of_content {row : List Char} (hcontent : content line = row) (hne : row ≠ [])
    (hhash : row.head? ≠ some '#') :
    ofLine? line = ofColumns? (Text.splitAt '\t' row) := by
  rw [ofLine?, hcontent]
  split
  next => contradiction
  next => contradiction
  next => rfl

theorem ofLine?_of_comment {rest : List Char} (hcontent : content line = '#' :: rest) :
    ofLine? line = none := by
  rw [ofLine?, hcontent]
  rfl

theorem IsSkipped.ofLine?_eq (hline : IsSkipped line) : ofLine? line = none := by
  cases hline with
  | blank hblank =>
      have hcontent : content line = [] := by
        rw [content, Text.trim_of_gap hblank]
        rfl
      rw [ofLine?, hcontent]
  | comment hhash hmark =>
      cases line with
      | nil => cases hhash
      | cons c line =>
          cases hhash
          have htrim : Text.trim ('#' :: line) = '#' :: Text.dropEndWhile Text.isSpace line :=
            Text.dropEndWhile_cons (by decide) line
          have hprefix : Text.trim ('#' :: line) <+: '#' :: line :=
            List.rdropWhile_prefix Text.isSpace ('#' :: line)
          have hcontent : content ('#' :: line) = Text.trim ('#' :: line) := by
            rw [content, Text.after?_eq_none fun h => hmark (h.trans hprefix)]
            rfl
          exact ofLine?_of_comment (hcontent.trans htrim)
  | short hshort =>
      exact ofLine?_of_short (lt_of_le_of_lt (length_splitAt_content_le line) hshort)

/-! ## Lines of cookies -/

section

variable (hcookie : cookie.IsWritable) (hflag : IsInner flag) (hexpiry : IsInner expiry)

theorem isInner_flagText (secure : Bool) :
    IsInner (if secure then "TRUE" else "FALSE").toList := by
  cases secure <;> exact ⟨by decide +kernel, by decide +kernel⟩

include hcookie

theorem IsWritable.exists_first :
    ∃ c rest, cookie.domain.toList = c :: rest ∧ c ≠ '#' ∧ Text.isSpace c = false := by
  have htrimmed := (Text.trim_eq_self_iff.mp hcookie.domain.trimmed).1
  have hhash := hcookie.not_comment
  cases hdomain : cookie.domain.toList with
  | nil => exact (hcookie.domain_ne (String.toList_eq_nil_iff.mp hdomain)).elim
  | cons c rest =>
      rw [hdomain] at htrimmed hhash
      refine ⟨c, rest, rfl, ?_, htrimmed c rfl⟩
      rintro rfl
      exact hhash rfl

theorem IsWritable.exists_row (flag expiry : List Char) :
    ∃ c rest, cookie.row flag expiry = c :: rest ∧ c ≠ '#' ∧ Text.isSpace c = false := by
  obtain ⟨c, rest, hdomain, hc⟩ := hcookie.exists_first
  rw [row, frontColumns, List.cons_append, List.cons_append, List.intercalate_cons_cons, hdomain]
  exact ⟨c, _, rfl, hc⟩

/-- A line keeps its end if its last column is not empty. -/
theorem IsWritable.content_row (hmark : IsMark mark) (hvalue : cookie.value ≠ "") :
    content (mark ++ cookie.row flag expiry) = cookie.row flag expiry := by
  obtain ⟨c, rest, hrow, hhash, hc⟩ := hcookie.exists_row flag expiry
  have hlast : (mark ++ cookie.row flag expiry).getLast? = cookie.value.toList.getLast? := by
    rw [row, Text.intercalate_append (by simp [frontColumns]) (by simp),
      List.intercalate_singleton]
    have hne : cookie.value.toList ≠ [] := mt String.toList_eq_nil_iff.mp hvalue
    rw [List.getLast?_append_of_ne_nil _ (by simp), List.getLast?_append_of_ne_nil _ hne]
  have hends := (Text.trim_eq_self_iff.mp hcookie.value.trimmed).2
  rw [← hlast] at hends
  rcases hmark with rfl | rfl
  · have hplain : ¬ httpOnlyMark <+: cookie.row flag expiry := by
      rw [hrow]
      intro hprefix
      exact hhash (List.cons_prefix_cons.mp hprefix).1.symm
    refine content_of_trimmed (Text.trim_eq_self_iff.mpr ⟨?_, hends⟩) hplain
    intro d hd
    rw [List.nil_append, hrow] at hd
    cases hd
    exact hc
  · have htrim : Text.trim (httpOnlyMark ++ cookie.row flag expiry) =
        httpOnlyMark ++ cookie.row flag expiry := by
      refine Text.trim_eq_self_iff.mpr ⟨?_, hends⟩
      intro d hd
      cases hd
      decide
    rw [content, htrim, Text.after?_eq_some.mpr rfl]
    rfl

include hflag hexpiry

theorem IsWritable.isInner {column : List Char}
    (hcolumn : column ∈ cookie.frontColumns flag expiry ++ [cookie.value.toList]) :
    IsInner column := by
  simp only [frontColumns, List.cons_append, List.nil_append, List.mem_cons, List.not_mem_nil,
    or_false] at hcolumn
  rcases hcolumn with rfl | rfl | rfl | rfl | rfl | rfl | rfl
  · exact hcookie.domain.toIsInner
  · exact hflag
  · exact hcookie.path.toIsInner
  · exact isInner_flagText cookie.secure
  · exact hexpiry
  · exact hcookie.name.toIsInner
  · exact hcookie.value.toIsInner

theorem IsWritable.splitAt_row :
    Text.splitAt '\t' (cookie.row flag expiry) =
      cookie.frontColumns flag expiry ++ [cookie.value.toList] :=
  Text.splitAt_intercalate (by simp) fun _ hcolumn =>
    (hcookie.isInner hflag hexpiry hcolumn).tab

theorem IsWritable.ofColumns?_row :
    ofColumns? (Text.splitAt '\t' (cookie.row flag expiry)) = some cookie := by
  rw [hcookie.splitAt_row hflag hexpiry]
  obtain ⟨domain, path, secure, name, value⟩ := cookie
  cases secure <;> simp [frontColumns, ofColumns?] <;> decide +kernel

theorem IsWritable.newline_not_mem_row : '\n' ∉ cookie.row flag expiry := by
  intro hmem
  rcases Text.mem_of_mem_intercalate hmem with hseparator | ⟨column, hcolumn, hnewline⟩
  · cases hseparator
  · exact (hcookie.isInner hflag hexpiry hcolumn).newline hnewline

/-- Without a last column the line ends with a tab, and the columns are one too few. -/
theorem IsWritable.short_of_empty_value (hmark : IsMark mark) (hvalue : cookie.value = "") :
    (Text.splitAt '\t' (content (mark ++ cookie.row flag expiry))).length < 7 := by
  have htab : IsGap ['\t'] := by
    simp only [IsGap, List.forall_mem_singleton]
    decide
  have hfront : '\t' ∉ mark := by
    rcases hmark with rfl | rfl <;> decide +kernel
  have hcut : mark ++ cookie.row flag expiry =
      mark ++ ['\t'].intercalate (cookie.frontColumns flag expiry) ++ ['\t'] := by
    rw [row, Text.intercalate_append (by simp [frontColumns]) (by simp),
      List.intercalate_singleton, hvalue, List.append_assoc]
    simp
  have hsplit : Text.splitAt '\t' (['\t'].intercalate (cookie.frontColumns flag expiry)) =
      cookie.frontColumns flag expiry :=
    Text.splitAt_intercalate (by simp [frontColumns]) fun _ hcolumn =>
      (hcookie.isInner hflag hexpiry (List.mem_append_left _ hcolumn)).tab
  rw [hcut, content_append_gap htab]
  apply lt_of_le_of_lt (length_splitAt_content_le _)
  rw [frontColumns] at hsplit ⊢
  rw [Text.splitAt_append_front hfront hsplit]
  exact Nat.lt_succ_self 6

end

theorem WritesLine.ofLine?_eq (hline : WritesLine cookie line) :
    ofLine? line = if cookie.value = "" then none else some cookie := by
  cases hline with
  | @row mark flag expiry hmark hcookie hflag hexpiry =>
      split
      next hvalue =>
        exact ofLine?_of_short (hcookie.short_of_empty_value hflag hexpiry hmark hvalue)
      next hvalue =>
        obtain ⟨c, rest, hrow, hhash, -⟩ := hcookie.exists_row flag expiry
        rw [ofLine?_of_content (hcookie.content_row hmark hvalue) (by simp [hrow])
          (by simpa [hrow] using hhash)]
        exact hcookie.ofColumns?_row hflag hexpiry

theorem WritesLine.newline_not_mem (hline : WritesLine cookie line) : '\n' ∉ line := by
  cases hline with
  | @row mark flag expiry hmark hcookie hflag hexpiry =>
      have hfront : '\n' ∉ mark := by
        rcases hmark with rfl | rfl <;> decide +kernel
      exact List.not_mem_append hfront (hcookie.newline_not_mem_row hflag hexpiry)

/-! ## Files -/

theorem ofFile_eq (file : String) :
    ofFile file = (Text.splitAt '\n' file.toList).filterMap ofLine? := rfl

theorem filterMap_line {rest : List Char} (hline : '\n' ∉ line) (hending : IsLineEnd ending) :
    (Text.splitAt '\n' (line ++ ending ++ '\n' :: rest)).filterMap ofLine? =
      (ofLine? line).toList ++ (Text.splitAt '\n' rest).filterMap ofLine? := by
  have hwhole : '\n' ∉ line ++ ending := List.not_mem_append hline hending.newline_not_mem
  rw [Text.splitAt_append_separator, Text.splitAt_of_not_mem hwhole, List.singleton_append,
    List.filterMap_cons, ofLine?_append_gap hending.isGap]
  cases ofLine? line <;> rfl

/-- A cookie file gives the cookies that are written in it, in their order, but the ones whose
value is empty; so it gives all of them exactly if no value is empty. -/
theorem cookie_files_are_read_back {cookies : List CookieLine} {file : String}
    (hfile : WritesFile cookies file.toList) :
    ofFile file = cookies.filter (fun cookie => cookie.value ≠ "") ∧
      (ofFile file = cookies ↔ ∀ cookie ∈ cookies, cookie.value ≠ "") := by
  have hread : ofFile file = cookies.filter (fun cookie => cookie.value ≠ "") := by
    rw [ofFile_eq]
    generalize file.toList = text at hfile
    induction hfile with
    | done => rfl
    | cookie hline hending hrest ih =>
        rw [filterMap_line hline.newline_not_mem hending, ih, hline.ofLine?_eq, List.filter_cons]
        split <;> simp_all
    | skipped hline hnewline hending hrest ih =>
        rw [filterMap_line hnewline hending, ih, hline.ofLine?_eq]
        rfl
  refine ⟨hread, ?_⟩
  rw [hread, List.filter_eq_self]
  simp

/-- A comment, a cookie, a line that is too short and a cookie that scripts do not see. -/
theorem comments_and_short_lines_are_skipped :
    ofFile ("# Netscape HTTP Cookie File\r\n"
        ++ ".youtube.com\tTRUE\t/\tTRUE\t0\tPREF\tf1=50000000\r\n"
        ++ "broken line\n"
        ++ "#HttpOnly_.youtube.com\tTRUE\t/\tFALSE\t0\tVISITOR\tabc\n") =
      [⟨".youtube.com", "/", true, "PREF", "f1=50000000"⟩,
        ⟨".youtube.com", "/", false, "VISITOR", "abc"⟩] := by
  have hcomment : IsSkipped "# Netscape HTTP Cookie File".toList :=
    .comment (by decide +kernel) (by decide +kernel)
  have hpref : WritesLine ⟨".youtube.com", "/", true, "PREF", "f1=50000000"⟩
      (['\t'].intercalate ([".youtube.com", "TRUE", "/", "TRUE", "0", "PREF", "f1=50000000"].map
        String.toList)) :=
    @WritesLine.row _ [] "TRUE".toList "0".toList (.inl rfl) (by decide +kernel)
      (by decide +kernel) (by decide +kernel)
  have hshort : IsSkipped "broken line".toList := .short (by decide +kernel)
  have hvisitor : WritesLine ⟨".youtube.com", "/", false, "VISITOR", "abc"⟩
      (httpOnlyMark ++ ['\t'].intercalate ([".youtube.com", "TRUE", "/", "FALSE", "0", "VISITOR",
        "abc"].map String.toList)) :=
    @WritesLine.row _ _ "TRUE".toList "0".toList (.inr rfl) (by decide +kernel)
      (by decide +kernel) (by decide +kernel)
  have hfile := WritesFile.skipped hcomment (by decide +kernel) (.inr rfl)
    (.cookie hpref (.inr rfl) (.skipped hshort (by decide +kernel) (.inl rfl)
      (.cookie hvisitor (.inl rfl) .done)))
  rw [← String.toList_ofList (l := _ ++ _)] at hfile
  have hread := (cookie_files_are_read_back hfile).1
  calc _ = _ := congrArg ofFile (by decide +kernel)
    _ = _ := hread
    _ = _ := by decide +kernel

/-- The cookie without a value is written in the file as any other, and is not read. -/
theorem empty_values_are_lost :
    WritesFile [⟨"d", "/", true, "n", ""⟩] "d\tTRUE\t/\tTRUE\t0\tn\t\n".toList ∧
      ofFile "d\tTRUE\t/\tTRUE\t0\tn\t\n" ≠ [⟨"d", "/", true, "n", ""⟩] := by
  have htext : "d\tTRUE\t/\tTRUE\t0\tn\t\n".toList =
      [] ++ row ⟨"d", "/", true, "n", ""⟩ "TRUE".toList "0".toList ++ [] ++ '\n' :: [] := by
    decide +kernel
  refine ⟨?_, by decide +kernel⟩
  rw [htext]
  exact .cookie (.row (.inl rfl) (by decide +kernel) (by decide +kernel) (by decide +kernel))
    (.inl rfl) .done

end StreamLinks.CookieLine
