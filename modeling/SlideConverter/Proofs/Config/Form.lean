import SlideConverter.Config.Form
import SlideConverter.Proofs.Data.Schema

/-!
# Configurations and their trees

A section is read back from each of its forms, and a configuration from the forms of its sections,
or from the trees of some of them, in any order; sections that are missing have their defaults.
-/

namespace SlideConverter

open SlideConverter.Tree FieldKind

/-! ## Sections -/

namespace GlobalOptions

/-- How the section may be written, here and below. -/
def Form (o : GlobalOptions) : Tree → Prop :=
  IsRecord schema.fields [(· = .bool o.printSummary)]

theorem readBack (surplus : Bool) (o : GlobalOptions) :
    ReadBack schema.tree (schema.ofTree? surplus) Form o := by
  have known : schema.columns.Forms o _ :=
    .field (stands_bool _) .done
  exact schema.readBack surplus known rfl

end GlobalOptions

namespace PathOptions

def Form (o : PathOptions) : Tree → Prop :=
  IsRecord schema.fields [(· = .string o.workDir)]

theorem readBack (surplus : Bool) (o : PathOptions) :
    ReadBack schema.tree (schema.ofTree? surplus) Form o := by
  have known : schema.columns.Forms o _ :=
    .field (stands_string _) .done
  exact schema.readBack surplus known rfl

end PathOptions

namespace ToolOptions

def Form (o : ToolOptions) : Tree → Prop :=
  IsRecord schema.fields [(· = .string o.officeProgram),
    (· = .string o.officeVersionArgument), (· = .string o.rasterProgram),
    (· = .string o.rasterVersionArgument)]

theorem readBack (surplus : Bool) (o : ToolOptions) :
    ReadBack schema.tree (schema.ofTree? surplus) Form o := by
  have known : schema.columns.Forms o _ :=
    .field (stands_string _) <| .field (stands_string _) <| .field (stands_string _) <|
      .field (stands_string _) .done
  exact schema.readBack surplus known rfl

end ToolOptions

namespace PipelineOptions

def Form (o : PipelineOptions) : Tree → Prop :=
  IsRecord schema.fields [(· = .ofUInt64 o.pollIntervalMs),
    (· = .list (o.acceptedExtensions.map .string)), (· = .string o.intermediateExtension),
    (· = .string o.imageExtension), (· = .string o.slideStem), (· = .bool o.keepIntermediate)]

theorem readBack (surplus : Bool) (o : PipelineOptions) :
    ReadBack schema.tree (schema.ofTree? surplus) Form o := by
  have known : schema.columns.Forms o _ :=
    .field (stands_uint64 _) <| .field (stands_strings _) <| .field (stands_string _) <|
      .field (stands_string _) <| .field (stands_string _) <| .field (stands_bool _) .done
  exact schema.readBack surplus known rfl

end PipelineOptions

namespace LimitOptions

def Form (o : LimitOptions) : Tree → Prop :=
  IsRecord schema.fields [(· = .ofUInt64 o.jobTimeoutSeconds)]

theorem readBack (surplus : Bool) (o : LimitOptions) :
    ReadBack schema.tree (schema.ofTree? surplus) Form o := by
  have known : schema.columns.Forms o _ :=
    .field (stands_uint64 _) .done
  exact schema.readBack surplus known rfl

end LimitOptions

namespace LoggingOptions

def Form (o : LoggingOptions) : Tree → Prop :=
  IsRecord schema.fields [(· = .string o.level), (· = .bool o.json),
    (· = .bool o.writeToFile), (· = .string o.filePath)]

theorem readBack (surplus : Bool) (o : LoggingOptions) :
    ReadBack schema.tree (schema.ofTree? surplus) Form o := by
  have known : schema.columns.Forms o _ :=
    .field (stands_string _) <| .field (stands_bool _) <| .field (stands_bool _) <|
      .field (stands_string _) .done
  exact schema.readBack surplus known rfl

end LoggingOptions

namespace SecurityOptions

def Form (o : SecurityOptions) : Tree → Prop :=
  IsRecord schema.fields [(· = .bool o.rejectUrlInputs)]

theorem readBack (surplus : Bool) (o : SecurityOptions) :
    ReadBack schema.tree (schema.ofTree? surplus) Form o := by
  have known : schema.columns.Forms o _ :=
    .field (stands_bool _) .done
  exact schema.readBack surplus known rfl

end SecurityOptions

/-! ## Configurations -/

namespace Config

/-- With the defaults for all sections but those named. -/
def only (names : List String) (c : Config) : Config where
  global := if "global" ∈ names then c.global else {}
  paths := if "paths" ∈ names then c.paths else {}
  tools := if "tools" ∈ names then c.tools else {}
  pipeline := if "pipeline" ∈ names then c.pipeline else {}
  limits := if "limits" ∈ names then c.limits else {}
  logging := if "logging" ∈ names then c.logging else {}
  security := if "security" ∈ names then c.security else {}

variable {c : Config} {tables : List (String × Tree)}

def sectionNames : List String :=
  ["global", "paths", "tools", "pipeline", "limits", "logging", "security"]

/-- A section that is there is read, and one that is missing has its defaults. -/
theorem slot?_bind_sectionKind {α : Type} {s : Schema α} {Form : α → Tree → Prop} {a : α}
    (surplus : Bool) (name : String) (default : α) (known : ∀ e ∈ tables, e ∈ c.sections)
    (distinct : (tables.map Prod.fst).Nodup) (there : (name, s.tree a) ∈ c.sections)
    (back : ReadBack s.tree (s.ofTree? surplus) Form a) :
    (slot? tables ⟨name, .defaulted⟩).bind (sectionKind surplus default s).read =
      some (if name ∈ tables.map Prod.fst then a else default) := by
  by_cases given : name ∈ tables.map Prod.fst
  · obtain ⟨⟨name', t⟩, within, same⟩ := List.mem_map.mp given
    obtain rfl : name' = name := same
    have entry : (name', t) = (name', s.tree a) :=
      List.inj_on_of_nodup_map ((schema false).nodup_entries c) (known _ within) there rfl
    obtain rfl : t = s.tree a := congrArg Prod.snd entry
    rw [slot?_of_mem distinct within .defaulted, if_pos given]
    exact back.reads _ back.own
  · rw [slot?_of_not_mem given, if_neg given]
    rfl

/-- Some of the sections of a configuration, in any order. -/
theorem ofTree?_record (surplus : Bool) (known : ∀ e ∈ tables, e ∈ c.sections)
    (distinct : (tables.map Prod.fst).Nodup) :
    ofTree? surplus (.record tables) = some (c.only (tables.map Prod.fst)) := by
  apply Schema.ofTree?_record
  have found {α : Type} {s : Schema α} {Form : α → Tree → Prop} {a default : α} {name : String}
      (there : (name, s.tree a) ∈ c.sections)
      (back : ReadBack s.tree (s.ofTree? surplus) Form a) :=
    slot?_bind_sectionKind surplus name default known distinct there back
  refine .field (found ?_ (c.global.readBack surplus)) <|
    .field (found ?_ (c.paths.readBack surplus)) <| .field (found ?_ (c.tools.readBack surplus)) <|
    .field (found ?_ (c.pipeline.readBack surplus)) <|
    .field (found ?_ (c.limits.readBack surplus)) <|
    .field (found ?_ (c.logging.readBack surplus)) <|
    .field (found ?_ (c.security.readBack surplus)) .done
  all_goals simp [sections, schema, Columns.entries, sectionKind, defaulted]

/-! ### All sections in any form -/

/-- How a configuration may be written. -/
def Form (c : Config) : Tree → Prop :=
  IsRecord (schema false).fields [c.global.Form, c.paths.Form, c.tools.Form, c.pipeline.Form,
    c.limits.Form, c.logging.Form, c.security.Form]

theorem readBack (surplus : Bool) (c : Config) : ReadBack tree (ofTree? surplus) Form c := by
  have proper := not_isRecord_null
  have known : (schema surplus).columns.Forms c _ :=
    .field (stands_defaulted (c.global.readBack surplus) (proper _ _)) <|
    .field (stands_defaulted (c.paths.readBack surplus) (proper _ _)) <|
    .field (stands_defaulted (c.tools.readBack surplus) (proper _ _)) <|
    .field (stands_defaulted (c.pipeline.readBack surplus) (proper _ _)) <|
    .field (stands_defaulted (c.limits.readBack surplus) (proper _ _)) <|
    .field (stands_defaulted (c.logging.readBack surplus) (proper _ _)) <|
    .field (stands_defaulted (c.security.readBack surplus) (proper _ _)) .done
  exact (schema surplus).readBack surplus known rfl

theorem only_sectionNames (c : Config) : c.only sectionNames = c := rfl

end Config

end SlideConverter
