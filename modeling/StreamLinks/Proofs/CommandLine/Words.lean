import StreamLinks.CommandLine.Arguments
import StreamLinks.Proofs.Text.Pieces

/-!
# Command lines that ask for a resolution

What a command line asks for is known by the arguments that come out of it.  A predicate says
which arguments can come out, and each of them comes out of words of one form, with the
identifiers behind the separator.  So what is asked of many identifiers can be asked of each
alone.
-/

namespace StreamLinks.CommandLine

variable {configVariable : Option String} {arguments result : Arguments}

namespace Arguments

/-- The arguments for one identifier alone. -/
def only (arguments : Arguments) (input : String) : Arguments :=
  { arguments with identifiers := [input] }

/-- The options as words. -/
def optionWords (arguments : Arguments) : List String :=
  (arguments.config.map ("--config=" ++ ·)).toList
    ++ (if arguments.itags = [] then [] else ["--itag=" ++ ",".intercalate arguments.itags])
    ++ (if arguments.form = .json then ["--json"] else [])

/-- Words that ask for the arguments. -/
def words (arguments : Arguments) : List String :=
  arguments.optionWords ++ "--" :: arguments.identifiers

theorem withConfig?_eq_some {path : String} :
    arguments.withConfig? path = some result ↔
      path ≠ "" ∧ arguments.config = none ∧ { arguments with config := some path } = result := by
  unfold withConfig?
  cases arguments.config with
  | none => by_cases hpath : path = "" <;> simp [hpath]
  | some named => simp

/-- The options are such as words can give them. -/
structure AreWritable (arguments : Arguments) : Prop where
  config : arguments.config ≠ some ""
  itags : ∀ itag ∈ arguments.itags, ',' ∉ itag.toList

/-- The arguments are such as come out of a command line, in an environment that may name a
configuration file. -/
structure AreReadable (configVariable : Option String) (arguments : Arguments) : Prop
    extends arguments.AreWritable where
  identifiers : arguments.identifiers ≠ []
  environment : arguments.config = none → configVariable = none

namespace AreWritable

theorem start : AreWritable {} :=
  ⟨nofun, nofun⟩

theorem addItags (hargs : arguments.AreWritable) (itags : String) :
    (arguments.addItags itags).AreWritable := by
  refine ⟨hargs.config, fun itag hitag => ?_⟩
  obtain hold | hnew := List.mem_append.1 hitag
  · exact hargs.itags itag hold
  · obtain ⟨piece, hpiece, rfl⟩ := List.mem_map.1 hnew
    rw [String.toList_ofList]
    intro hcomma
    obtain ⟨-, hplain⟩ := Text.exists_piece_iff.1 ⟨piece, hpiece, hcomma⟩
    cases hplain

theorem withConfig (hargs : arguments.AreWritable) {path : String}
    (hpath : arguments.withConfig? path = some result) : result.AreWritable := by
  obtain ⟨hnamed, -, rfl⟩ := withConfig?_eq_some.1 hpath
  exact ⟨fun hempty => hnamed (Option.some.inj hempty), hargs.itags⟩

end AreWritable

theorem AreWritable.finish (hargs : arguments.AreWritable)
    (hfinish : arguments.finish configVariable = .resolve result) :
    result.AreReadable configVariable := by
  have hchecked : ∀ named : Arguments, named.AreWritable →
      (named.config = none → configVariable = none) →
      (if named.identifiers.isEmpty then Invocation.unusable else .resolve named) =
        .resolve result → result.AreReadable configVariable := by
    intro named hnamed henvironment heq
    split at heq
    · cases heq
    · rename_i hsome
      cases heq
      exact ⟨hnamed, by simpa using hsome, henvironment⟩
  unfold Arguments.finish at hfinish
  split at hfinish
  · split at hfinish
    · rename_i hpath
      refine hchecked _ (hargs.withConfig hpath) (fun hnone => ?_) hfinish
      obtain ⟨-, -, rfl⟩ := withConfig?_eq_some.1 hpath
      cases hnone
    · cases hfinish
  · rename_i hopen
    refine hchecked arguments hargs (fun hnone => ?_) hfinish
    exact Option.eq_none_iff_forall_ne_some.2 fun path hpath => hopen path hnone hpath

end Arguments

namespace Invocation

open Arguments

end Invocation

/-! ## Words for arguments -/

namespace Word

end Word

namespace Arguments

theorem AreReadable.finish (hargs : arguments.AreReadable configVariable) :
    arguments.finish configVariable = .resolve arguments := by
  have hsome : arguments.identifiers.isEmpty = false := by
    simpa using hargs.identifiers
  unfold Arguments.finish
  split
  · rename_i path hnone
    cases hargs.environment hnone
  · simp [hsome]

end Arguments

namespace Invocation

open Arguments

end Invocation

end StreamLinks.CommandLine
