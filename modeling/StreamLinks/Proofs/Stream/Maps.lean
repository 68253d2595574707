import StreamLinks.Proofs.Query
import StreamLinks.Stream.Link
import StreamLinks.Video.Info

/-!
# Writing stream maps

A stream that needs no player is written as a query of its fields, in any order, and a
stream map holds such queries between commas.  Reading the map gives the streams back,
and no map of such streams is taken for one with scrambled signatures, whatever
characters their fields have.
-/

namespace StreamLinks

/-! ## Fields between the marks of a stream map -/

def isFieldEnd (c : Char) : Bool :=
  c == '&' || c == ','

/-- A field starts behind this character, if there is one. -/
def startsField (previous : Option Char) : Bool :=
  previous.all isFieldEnd

theorem startsField_eq_true {previous : Option Char} :
    startsField previous = true ↔
      previous = none ∨ previous = some '&' ∨ previous = some ',' := by
  cases previous <;> simp [startsField, isFieldEnd]

theorem hasScrambledField_iff (previous : Option Char) (text : List Char) :
    hasScrambledField previous text = true ↔
      ∃ field ∈ (if startsField previous then Text.splitWhere isFieldEnd text
          else (Text.splitWhere isFieldEnd text).tail), ['s', '='] <+: field := by
  induction text generalizing previous with
  | nil => cases startsField previous <;> simp [hasScrambledField, Text.splitWhere]
  | cons c rest ih =>
      have hlater := ih (some c)
      rw [hasScrambledField, Bool.or_eq_true, decide_eq_true_eq, ← startsField_eq_true, hlater]
      cases hend : isFieldEnd c with
      | true =>
          have hletter : c ≠ 's' := by
            rintro rfl
            exact absurd hend (by decide)
          have hstarts : startsField (some c) = true := hend
          rw [Text.splitWhere_cons_of_pos hend, if_pos hstarts]
          cases startsField previous <;> simp [hletter]
      | false =>
          have hstarts : startsField (some c) = false := hend
          obtain ⟨field, fields, hrest, hsplit⟩ := Text.splitWhere_cons_of_neg hend rest
          have hfirst : ['s', '='] <+: c :: field ↔ c = 's' ∧ rest.head? = some '=' := by
            rw [List.cons_prefix_cons, ← Text.head?_of_splitWhere hrest (by decide), eq_comm]
            cases field <;> simp [eq_comm]
          rw [hsplit, hrest, hstarts]
          cases startsField previous <;> simp [hfirst]

theorem isScrambled_iff {map : String} :
    isScrambled map = true ↔
      ∃ field ∈ Text.splitWhere isFieldEnd map.toList, ['s', '='] <+: field :=
  hasScrambledField_iff none map.toList

/-! ## Streams that need no player -/

/-- A stream as it is described before it is written.  Its signature, if it has one, is
not scrambled. -/
structure PlainStream where
  itag : String
  url : String
  mimeType : Option String
  quality : Option String
  signature : Option String
  itag_ne : itag ≠ ""
  url_ne : url ≠ ""

theorem nonEmpty_of_ne {text : String} (hne : text ≠ "") : nonEmpty (some text) = some text := by
  simp [nonEmpty, hne]

namespace PlainStream

variable {stream : PlainStream} {streams regular adaptive : List PlainStream}
  {piece : List Char} {map : String}

def fields (stream : PlainStream) : List (String × String) :=
  [("itag", stream.itag), ("url", stream.url)] ++
    (stream.mimeType.map fun value => ("type", value)).toList ++
    (stream.quality.map fun value => ("quality", value)).toList ++
    (stream.signature.map fun value => ("sig", value)).toList

/-- The text writes the fields of the stream, in some order. -/
def Writes (stream : PlainStream) (text : List Char) : Prop :=
  ∃ fields, fields.Perm stream.fields ∧ Query.WritesQuery fields text

/-- The stream map writes the streams one after the other between commas. -/
def WritesMap (streams : List PlainStream) (map : String) : Prop :=
  ∃ pieces, List.Forall₂ Writes streams pieces ∧ map.toList = [','].intercalate pieces

/-- The entry that a stream is read as. -/
def entry (stream : PlainStream) : StreamEntry where
  itag := stream.itag
  mimeType := nonEmpty stream.mimeType
  quality := nonEmpty stream.quality
  url := stream.url
  signature := stream.signature.elim .absent .plain

/-- The link of a stream, from what the stream was described with. -/
def link (title : String) (stream : PlainStream) : StreamLink :=
  let extension := (stream.mimeType.bind StreamEntry.subtype?).getD "unknown"
  { itag := stream.itag
    title
    url := stream.signature.elim stream.url (appendSignature stream.url)
    extension
    quality := nonEmpty stream.quality
    label := streamLabel stream.itag extension (nonEmpty stream.quality) }

/-! ## Reading a stream -/

theorem find?_fields (stream : PlainStream) (key : String) :
    Dictionary.find? key stream.fields =
      if key = "itag" then some stream.itag
      else if key = "url" then some stream.url
      else if key = "type" then stream.mimeType
      else if key = "quality" then stream.quality
      else if key = "sig" then stream.signature
      else none := by
  have hfind : ∀ (other : String) (field : Option String),
      Dictionary.find? key (field.map fun value => (other, value)).toList =
        if key = other then field else none := by
    intro other field
    cases field <;> simp [Dictionary.find?]
  simp only [fields, Dictionary.find?_append, Dictionary.find?, hfind]
  split_ifs <;> simp_all

theorem nodup_fields (stream : PlainStream) : (stream.fields.map Prod.fst).Nodup := by
  unfold fields
  cases stream.mimeType <;> cases stream.quality <;> cases stream.signature <;> simp

theorem Writes.ofFragment?_eq (hwrites : stream.Writes piece) :
    StreamEntry.ofFragment? (String.ofList piece) = some stream.entry := by
  obtain ⟨fields, hperm, hquery⟩ := hwrites
  have hget : ∀ key, (Query.parse (String.ofList piece)).get? key =
      Dictionary.find? key stream.fields := by
    intro key
    rw [← String.toList_ofList (l := piece)] at hquery
    rw [hquery.parse_eq]
    exact Dictionary.get?_ofPairs_of_perm hperm stream.nodup_fields key
  have hsignature : StreamEntry.signatureOf (Query.parse (String.ofList piece)) =
      stream.signature.elim .absent .plain := by
    unfold StreamEntry.signatureOf
    cases hfield : stream.signature <;> simp [hget, find?_fields, hfield]
  unfold StreamEntry.ofFragment?
  dsimp only
  rw [hsignature]
  simp [hget, find?_fields, nonEmpty_of_ne stream.itag_ne, nonEmpty_of_ne stream.url_ne, entry]

theorem bind_subtype?_nonEmpty (mimeType : Option String) :
    (nonEmpty mimeType).bind StreamEntry.subtype? = mimeType.bind StreamEntry.subtype? := by
  cases mimeType with
  | none => rfl
  | some text =>
      by_cases hempty : text = ""
      · subst hempty
        decide
      · rw [nonEmpty_of_ne hempty]

theorem toLink_entry (title : String) (stream : PlainStream) :
    stream.entry.toLink title (stream.link title).url = stream.link title := by
  have hextension : stream.entry.extension =
      (stream.mimeType.bind StreamEntry.subtype?).getD "unknown" := by
    rw [← bind_subtype?_nonEmpty]
    rfl
  unfold StreamEntry.toLink link
  rw [hextension]
  rfl

/-! ## Reading a stream map -/

theorem fields_ne_nil {fields : List (String × String)} (hperm : fields.Perm stream.fields) :
    fields ≠ [] := by
  rintro rfl
  have hnil := hperm.nil_eq
  simp [PlainStream.fields] at hnil

theorem Writes.comma_not_mem (hwrites : stream.Writes piece) : ',' ∉ piece := by
  obtain ⟨fields, hperm, hquery⟩ := hwrites
  exact hquery.comma_not_mem (fields_ne_nil hperm)

theorem Writes.not_blank (hwrites : stream.Writes piece) : piece.all Text.isSpace = false := by
  obtain ⟨fields, hperm, hquery⟩ := hwrites
  rw [List.all_eq_false]
  exact ⟨'=', hquery.assign_mem (fields_ne_nil hperm), by decide⟩

theorem Writes.ofFragment?_pieces {pieces : List (List Char)}
    (hwrites : List.Forall₂ Writes streams pieces) :
    (pieces.map String.ofList).filterMap StreamEntry.ofFragment? = streams.map entry := by
  induction hwrites with
  | nil => rfl
  | cons hstream hrest ih =>
      rw [List.map_cons, List.filterMap_cons_some hstream.ofFragment?_eq, ih, List.map_cons]

theorem fragments_of_writes {pieces : List (List Char)}
    (hwrites : List.Forall₂ Writes streams pieces) (hmap : map.toList = [','].intercalate pieces) :
    fragments map = pieces.map String.ofList := by
  by_cases hne : pieces = []
  · subst hne
    rw [fragments, hmap]
    rfl
  · have hapart : ∀ piece ∈ pieces, ',' ∉ piece := by
      intro piece hpiece
      obtain ⟨stream, -, hstream⟩ := Text.exists_of_forall₂ hwrites.flip hpiece
      exact Writes.comma_not_mem hstream
    have hnotBlank : ∀ piece ∈ pieces, (!piece.all Text.isSpace) = true := by
      intro piece hpiece
      obtain ⟨stream, -, hstream⟩ := Text.exists_of_forall₂ hwrites.flip hpiece
      rw [Writes.not_blank hstream, Bool.not_false]
    rw [fragments, hmap, Text.splitAt_intercalate hne hapart, List.filter_eq_self.mpr hnotBlank]

theorem WritesMap.entries_eq (hwrites : WritesMap streams map) :
    (fragments map).filterMap StreamEntry.ofFragment? = streams.map entry := by
  obtain ⟨pieces, hpieces, hmap⟩ := hwrites
  rw [fragments_of_writes hpieces hmap, Writes.ofFragment?_pieces hpieces]

/-! ## No scrambled signatures -/

theorem not_prefix_of_writesPair {pair : String × String} {field : List Char}
    (hfield : Query.WritesPair pair field) (hkey : pair.1 ≠ "s") : ¬ ['s', '='] <+: field := by
  rintro ⟨rest, rfl⟩
  obtain ⟨key, value, hwrites, -, hsplit⟩ := hfield
  have hfirst : ['s'] ++ '=' :: rest = key ++ '=' :: value := hsplit
  obtain ⟨rfl, -⟩ := Text.eq_of_first_separator hfirst (by decide)
    (hwrites.ne_separator (.inr (.inl rfl)))
  have hunmarked : ∀ c ∈ ['s'], Query.isMark c = false := by
    rw [List.forall_mem_singleton]
    decide
  have hletter : Query.Writes "s" ['s'] := by
    have htoList : "s".toList = ['s'] := by decide +kernel
    rw [Query.Writes, htoList]
    exact Query.encodes_self hunmarked
  exact hkey (hwrites.unique hletter)

theorem key_ne_of_mem_fields {pair : String × String} (hpair : pair ∈ stream.fields) :
    pair.1 ≠ "s" := by
  intro hkey
  have hget : (Dictionary.mk stream.fields).get? pair.1 = some pair.2 :=
    Dictionary.get?_of_mem stream.nodup_fields hpair
  rw [Dictionary.get?, hkey, find?_fields] at hget
  simp at hget

theorem Writes.writesPair_of_mem (hwrites : stream.Writes piece) {field : List Char}
    (hfield : field ∈ Text.splitWhere isFieldEnd piece) :
    ∃ pair ∈ stream.fields, Query.WritesPair pair field := by
  obtain ⟨fields, hperm, texts, htexts, rfl⟩ := hwrites
  have hne : texts ≠ [] := by
    rintro rfl
    cases htexts
    exact fields_ne_nil hperm rfl
  have hend : isFieldEnd '&' = true := by decide
  rw [Text.splitWhere_intercalate hend hne, List.mem_flatMap] at hfield
  obtain ⟨text, htext, hfield⟩ := hfield
  obtain ⟨pair, hpair, hwritten⟩ := Text.exists_of_forall₂ htexts.flip htext
  have hwhole : ∀ c ∈ text, isFieldEnd c = false := by
    intro c hc
    have hampersand : c ≠ '&' := by
      rintro rfl
      exact Query.WritesPair.ne_separator hwritten (.inl rfl) hc
    have hcomma : c ≠ ',' := by
      rintro rfl
      exact Query.WritesPair.ne_separator hwritten (.inr rfl) hc
    simp [isFieldEnd, hampersand, hcomma]
  rw [Text.splitWhere_of_none hwhole, List.mem_singleton] at hfield
  subst hfield
  exact ⟨pair, hperm.mem_iff.mp hpair, hwritten⟩

theorem WritesMap.not_isScrambled (hwrites : WritesMap streams map) :
    isScrambled map = false := by
  obtain ⟨pieces, hpieces, hmap⟩ := hwrites
  rw [Bool.eq_false_iff, ne_eq, isScrambled_iff]
  rintro ⟨field, hfield, hscrambled⟩
  rw [hmap] at hfield
  by_cases hne : pieces = []
  · subst hne
    rw [List.mem_singleton.mp hfield] at hscrambled
    exact absurd hscrambled (by decide)
  · have hend : isFieldEnd ',' = true := by decide
    rw [Text.splitWhere_intercalate hend hne, List.mem_flatMap] at hfield
    obtain ⟨piece, hpiece, hfield⟩ := hfield
    obtain ⟨stream, -, hstream⟩ := Text.exists_of_forall₂ hpieces.flip hpiece
    obtain ⟨pair, hpair, hwritten⟩ := Writes.writesPair_of_mem hstream hfield
    exact not_prefix_of_writesPair hwritten (key_ne_of_mem_fields hpair) hscrambled

/-! ## Two stream maps in one -/

theorem WritesMap.eq_empty_iff (hwrites : WritesMap streams map) : map = "" ↔ streams = [] := by
  obtain ⟨pieces, hpieces, hmap⟩ := hwrites
  rw [← String.toList_eq_nil_iff, hmap]
  cases hpieces with
  | nil => simp
  | @cons stream piece streams pieces hstream hrest =>
      have hne : piece ≠ [] := by
        rintro rfl
        exact absurd hstream.not_blank (by decide)
      cases pieces <;> simp [hne, List.intercalate_cons_cons]

theorem WritesMap.append {adaptiveMap : String} (hregular : WritesMap regular map)
    (hadaptive : WritesMap adaptive adaptiveMap) (hregularNe : regular ≠ [])
    (hadaptiveNe : adaptive ≠ []) :
    WritesMap (regular ++ adaptive) (map ++ "," ++ adaptiveMap) := by
  obtain ⟨pieces, hpieces, hmap⟩ := hregular
  obtain ⟨others, hothers, hadaptiveMap⟩ := hadaptive
  have hpiecesNe : pieces ≠ [] := by
    rintro rfl
    exact hregularNe (List.forall₂_nil_right_iff.mp hpieces)
  have hothersNe : others ≠ [] := by
    rintro rfl
    exact hadaptiveNe (List.forall₂_nil_right_iff.mp hothers)
  refine ⟨pieces ++ others, List.rel_append hpieces hothers, ?_⟩
  rw [String.toList_append, String.toList_append, hmap, hadaptiveMap,
    Text.intercalate_append hpiecesNe hothersNe]
  rfl

theorem WritesMap.withAdaptive {adaptiveMap : String} (hregular : WritesMap regular map)
    (hadaptive : WritesMap adaptive adaptiveMap) (includeAdaptive : Bool) :
    WritesMap (if includeAdaptive then regular ++ adaptive else regular)
      (withAdaptive includeAdaptive map (some adaptiveMap)) := by
  cases includeAdaptive with
  | false => exact hregular
  | true =>
      have hchoice : StreamLinks.withAdaptive true map (some adaptiveMap) =
          if adaptiveMap = "" then map
          else if map = "" then adaptiveMap else map ++ "," ++ adaptiveMap := by
        simp [StreamLinks.withAdaptive]
      rw [hchoice, if_pos rfl]
      by_cases hadaptiveNil : adaptive = []
      · rw [if_pos (hadaptive.eq_empty_iff.mpr hadaptiveNil), hadaptiveNil, List.append_nil]
        exact hregular
      · rw [if_neg (hadaptive.eq_empty_iff.not.mpr hadaptiveNil)]
        by_cases hregularNil : regular = []
        · rw [if_pos (hregular.eq_empty_iff.mpr hregularNil), hregularNil, List.nil_append]
          exact hadaptive
        · rw [if_neg (hregular.eq_empty_iff.not.mpr hregularNil)]
          exact hregular.append hadaptive hregularNil hadaptiveNil

/-! ## Writing any streams -/

def writeMap (streams : List PlainStream) : String :=
  String.ofList ([','].intercalate (streams.map fun stream => Query.writeQuery stream.fields))

theorem writesMap_writeMap (streams : List PlainStream) :
    WritesMap streams (writeMap streams) := by
  refine ⟨_, ?_, String.toList_ofList⟩
  rw [List.forall₂_map_right_iff, List.forall₂_same]
  intro stream hstream
  exact ⟨stream.fields, List.Perm.refl _, Query.writesQuery_writeQuery _⟩

end PlainStream

end StreamLinks
