import Mathlib.Data.List.Perm.Basic
import SlideConverter.Config.Load
import SlideConverter.Proofs.Config.Form
import SlideConverter.Proofs.Text.Utf8
import SlideConverter.Proofs.Toml.Document

/-!
# Configurations and their texts

Loading undoes printing: the text of a configuration says all of it, and the text of some of its
sections, in any order, says these.
-/

namespace SlideConverter

open Text

namespace Toml

variable {c : Config}

theorem field_writes {key : String} {text : List Char} {t : Tree} (bare : IsBare key)
    (writes : Writes text t) : FieldWrites (key, text) (key, t) := ⟨rfl, bare, writes⟩

theorem section_writes {α : Type} {s : Schema α} {o : α} {name : String}
    {lines : List (String × List Char)} (bare : IsBare name)
    (writes : List.Forall₂ FieldWrites lines (s.columns.entries o)) :
    Section.Writes { name, fields := lines } (name, s.tree o) :=
  ⟨rfl, s.columns.entries o, rfl, bare, writes, s.nodup_entries o⟩

/-- Each section that is printed is that of the configuration. -/
theorem sections_write (c : Config) : List.Forall₂ Section.Writes (sections c) c.sections := by
  refine .cons ?global (.cons ?paths (.cons ?tools (.cons ?pipeline (.cons ?limits (.cons ?logging
    (.cons ?security .nil))))))
  case global =>
    exact section_writes (by decide) (.cons (field_writes (by decide) (writes_bool _)) .nil)
  case paths =>
    exact section_writes (by decide) (.cons (field_writes (by decide) (writes_string _)) .nil)
  case tools =>
    exact section_writes (by decide)
      (.cons (field_writes (by decide) (writes_string _))
        (.cons (field_writes (by decide) (writes_string _))
          (.cons (field_writes (by decide) (writes_string _))
            (.cons (field_writes (by decide) (writes_string _)) .nil))))
  case pipeline =>
    exact section_writes (by decide)
      (.cons (field_writes (by decide) (writes_number _))
        (.cons (field_writes (by decide) (writes_strings _))
          (.cons (field_writes (by decide) (writes_string _))
            (.cons (field_writes (by decide) (writes_string _))
              (.cons (field_writes (by decide) (writes_string _))
                (.cons (field_writes (by decide) (writes_bool _)) .nil))))))
  case limits =>
    exact section_writes (by decide) (.cons (field_writes (by decide) (writes_number _)) .nil)
  case logging =>
    exact section_writes (by decide)
      (.cons (field_writes (by decide) (writes_string _))
        (.cons (field_writes (by decide) (writes_bool _))
          (.cons (field_writes (by decide) (writes_bool _))
            (.cons (field_writes (by decide) (writes_string _)) .nil))))
  case security =>
    exact section_writes (by decide) (.cons (field_writes (by decide) (writes_bool _)) .nil)

theorem map_name_sections (c : Config) : (sections c).map (·.name) = Config.sectionNames := rfl

theorem exists_of_mem {α β : Type} {R : α → β → Prop} {l : List α} {l' : List β} {a : α}
    (all : List.Forall₂ R l l') (there : a ∈ l) : ∃ b ∈ l', R a b := by
  induction all with
  | nil => cases there
  | cons first others ih =>
    rcases List.mem_cons.mp there with rfl | within
    · exact ⟨_, List.mem_cons_self, first⟩
    · obtain ⟨b, within', related⟩ := ih within
      exact ⟨b, List.mem_cons_of_mem _ within', related⟩

/-- Some of the sections, with the tables that they are. -/
theorem exists_tables {chosen : List Section} (known : ∀ s ∈ chosen, s ∈ sections c) :
    ∃ tables, List.Forall₂ Section.Writes chosen tables ∧ (∀ e ∈ tables, e ∈ c.sections) ∧
      tables.map Prod.fst = chosen.map (·.name) := by
  induction chosen with
  | nil => exact ⟨[], .nil, by simp, rfl⟩
  | cons s chosen ih =>
    obtain ⟨first, others⟩ := List.forall_mem_cons.mp known
    obtain ⟨entry, there, writes⟩ := exists_of_mem (sections_write c) first
    obtain ⟨tables, written, within, names⟩ := ih others
    refine ⟨entry :: tables, .cons writes written, List.forall_mem_cons.mpr ⟨there, within⟩, ?_⟩
    rw [List.map_cons, List.map_cons, names, writes.1]

theorem nodup_names {chosen : List Section} (among : chosen.Subperm (sections c)) :
    (chosen.map (·.name)).Nodup := by
  obtain ⟨l, reordered, within⟩ := among
  have all : ((sections c).map (·.name)).Nodup := by
    rw [map_name_sections]
    decide
  exact (reordered.map (·.name)).nodup_iff.mp (all.sublist (within.map (·.name)))

/-- Between the sections of a document one line is left blank. -/
theorem document_eq_spaced (chosen : List Section) :
    ∃ tables : List (Section × Nat), tables.map Prod.fst = chosen ∧
      document chosen = spaced tables := by
  induction chosen with
  | nil => exact ⟨[], rfl, rfl⟩
  | cons s chosen ih =>
    obtain ⟨tables, same, text⟩ := ih
    cases chosen with
    | nil => exact ⟨[(s, 0)], rfl, by simp [document, spaced]⟩
    | cons next chosen =>
      refine ⟨(s, 1) :: tables, ?_, ?_⟩
      · rw [List.map_cons, same]
      · rw [document, text]
        · simp [spaced]
        · simp

end Toml

namespace Config

open Toml

theorem load_encode (path : Path) (text : String) {c : Config} (reads : ofToml? text = some c) :
    load path (some (Utf8.encode text)) = .ok c := by
  rw [load, Option.bind_some, Utf8.decode?_encode]
  simp only [reads]

theorem load_spaced (path : Path) {c : Config} {tables : List (Section × Nat)}
    (among : (tables.map Prod.fst).Subperm (Toml.sections c)) :
    load path (some (Utf8.encode (String.ofList (spaced tables)))) =
      .ok (c.only (tables.map (·.1.name))) := by
  obtain ⟨held, writes, known, names⟩ := exists_tables fun s there => among.subset there
  have distinct : (held.map Prod.fst).Nodup := by
    rw [names]
    exact nodup_names among
  rw [List.map_map] at names
  have same : tables.map (·.1.name) = held.map Prod.fst := names.symm
  apply load_encode
  rw [ofToml?, parse?_spaced (List.forall₂_map_left_iff.mp writes) distinct, Option.bind_some, same]
  exact ofTree?_record true known distinct

theorem load_document (path : Path) {c : Config} {chosen : List Section}
    (among : chosen.Subperm (Toml.sections c)) :
    load path (some (Utf8.encode (String.ofList (document chosen)))) =
      .ok (c.only (chosen.map (·.name))) := by
  obtain ⟨tables, rfl, text⟩ := document_eq_spaced chosen
  rw [text, load_spaced path among, List.map_map]
  rfl

theorem load_normalized (path : Path) (c : Config) :
    load path (some (Utf8.encode (normalized c))) = .ok c := by
  rw [normalized, load_document path (List.Subperm.refl _), map_name_sections, only_sectionNames]

theorem normalized_injective : Function.Injective normalized := by
  intro c other same
  have first := load_normalized (.ofString "") c
  rw [same, load_normalized] at first
  exact (Except.ok.inj first).symm

theorem normalized_ne_empty (c : Config) : normalized c ≠ "" := by
  intro empty
  have begins := congrArg String.toList empty
  rw [normalized, String.toList_ofList] at begins
  cases begins

/-- Of the sections of a configuration, printed in any order and with any number of blank lines
between them, these are read back, and the others have their defaults. All of them in order are the
configuration, so that its normalized text is that of no other. -/
theorem printed_sections_read_back (path : Path) (c : Config) :
    (∀ tables : List (Section × Nat), (tables.map Prod.fst).Subperm (Toml.sections c) →
      load path (some (Utf8.encode (String.ofList (spaced tables)))) =
        .ok (c.only (tables.map (·.1.name)))) ∧
    (∀ chosen : List Section, chosen.Subperm (Toml.sections c) →
      load path (some (Utf8.encode (String.ofList (document chosen)))) =
        .ok (c.only (chosen.map (·.name)))) ∧
    load path (some (Utf8.encode (normalized c))) = .ok c ∧
    (∀ other, normalized other = normalized c → other = c) ∧ normalized c ≠ "" := by
  refine ⟨?spaced, ?document, load_normalized path c, ?unique, normalized_ne_empty c⟩
  case spaced =>
    intro tables among
    exact load_spaced path among
  case document =>
    intro chosen among
    exact load_document path among
  case unique =>
    intro other same
    exact normalized_injective same

/-- Two sections, the later one in front, with a number that fills 64 bits and a string with a
newline, controls, a backslash and rows of marks in it. -/
theorem two_printed_sections_read_back :
    let c : Config :=
      { paths := { workDir := "\n\"\"\"'''\\\r\x7f\"" }
        limits := { jobTimeoutSeconds := 18446744073709551615 } }
    let chosen := ((Toml.sections c).filter fun s => s.name ∈ ["paths", "limits"]).reverse
    chosen.Subperm (Toml.sections c) ∧ chosen.map (·.name) = ["limits", "paths"] ∧
      load (.ofString "slidepush.toml") (some (Utf8.encode (String.ofList (document chosen)))) =
        .ok c := by
  intro c chosen
  have among : chosen.Subperm (Toml.sections c) :=
    (List.reverse_perm _).subperm.trans List.filter_sublist.subperm
  have names : chosen.map (·.name) = ["limits", "paths"] := rfl
  refine ⟨among, names, ?_⟩
  rw [(printed_sections_read_back (.ofString "slidepush.toml") c).2.1 chosen among, names]
  rfl

end Config

end SlideConverter
