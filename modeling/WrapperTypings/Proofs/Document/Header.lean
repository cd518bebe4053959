import WrapperTypings.Proofs.Document.ReadBack
import WrapperTypings.Proofs.Version.Order

set_option autoImplicit false

/-! The header of a document. A version is checked without the blanks around it but written with
them, so that a newline among the blanks breaks the first comment in two. A version without one
leaves the header whole, whatever lines the rest of the document consists of. -/

namespace WrapperTypings.Document

open Text (IsOneLine)

variable {catalog : Catalog} {declarations : Declarations} {options : Options}
variable {excluded : List String} {variant : Variant} {text : String}

def IsComment (line : String) : Prop :=
  ∃ content, line = "// " ++ content

/-- A text that begins with three comment lines, an empty line and the opening of the module. -/
def HasHeader (moduleName text : String) : Prop :=
  ∃ types project definitions rest, IsComment types ∧ IsComment project ∧ IsComment definitions ∧
    Text.split '\n' text = types :: project :: definitions :: "" ::
      ("declare module '" ++ moduleName ++ "' \x7b") :: rest

theorem IsComment.append {line : String} (comment : IsComment line) (more : String) :
    IsComment (line ++ more) := by
  obtain ⟨content, rfl⟩ := comment
  exact ⟨content ++ more, String.append_assoc⟩

theorem IsComment.slash_mem {line : String} (comment : IsComment line) : '/' ∈ line.toList := by
  obtain ⟨content, rfl⟩ := comment
  rw [String.toList_append]
  exact List.mem_append_left _ List.mem_cons_self

private theorem hasHeader_of_headerLines {version : String} {rest : List String}
    (lines : Text.split '\n' text = headerLines version variant options ++ rest) :
    HasHeader (variant.moduleName options.moduleBase) text := by
  have types : IsComment "// Type definitions for " := ⟨"Type definitions for ", rfl⟩
  have project : IsComment "// Project: " := ⟨"Project: ", rfl⟩
  have definitions : IsComment "// Definitions by: " := ⟨"Definitions by: ", rfl⟩
  exact ⟨_, _, _, _, ((types.append _).append _).append _, project.append _, definitions.append _,
    lines⟩

theorem Options.Flat.exists_split_render (flat : options.Flat) {first : String}
    {others : List String} (shape : Text.split '\n' catalog.version = first :: others)
    (rendered : render catalog declarations variant excluded options = .ok text) :
    ∃ rest, Text.split '\n' text =
      (headerLead variant options ++ first) ::
        (others ++ (headerRest variant options ++ rest)) := by
  obtain ⟨written, linesWritten, same⟩ := Outcome.map_eq_ok.mp rendered
  obtain ⟨declared, _, rfl⟩ := lines_eq_ok_iff.mp linesWritten
  have nonempty : headerLines catalog.version variant options ++
      bodyLines catalog declared excluded variant ≠ [] := List.cons_ne_nil _ _
  have rest : (headerRest variant options).flatMap (Text.split '\n') = headerRest variant options :=
    Text.flatMap_split_of_not_mem (flat.isOneLine_headerRest variant)
  refine ⟨(bodyLines catalog declared excluded variant).flatMap (Text.split '\n'), ?_⟩
  rw [← same, Text.split_join_eq rfl nonempty, headerLines_eq, List.cons_append, List.flatMap_cons,
    List.flatMap_append, rest,
    Text.split_append_of_isOneLine (flat.isOneLine_headerLead variant) shape, List.cons_append]

private theorem exists_headerLines (flat : options.Flat) (oneLine : IsOneLine catalog.version)
    (rendered : render catalog declarations variant excluded options = .ok text) :
    ∃ rest, Text.split '\n' text = headerLines catalog.version variant options ++ rest :=
  flat.exists_split_render (Text.split_of_not_mem oneLine) rendered

/-- A second line of a dotted version would stand where a comment is due, and holds no slash. -/
theorem isOneLine_of_hasHeader {moduleName : String} (dotted : Version.Dotted catalog.version)
    (flat : options.Flat)
    (rendered : render catalog declarations variant excluded options = .ok text)
    (header : HasHeader moduleName text) : IsOneLine catalog.version := by
  cases shape : Text.split '\n' catalog.version with
  | nil => exact absurd (List.map_eq_nil_iff.mp shape) (Text.parts_ne_nil '\n' _)
  | cons first others =>
      cases others with
      | nil => exact Text.isOneLine_of_split shape
      | cons second more =>
          obtain ⟨rest, lines⟩ := flat.exists_split_render shape rendered
          obtain ⟨types, project, definitions, further, _, comment, _, begins⟩ := header
          rw [lines] at begins
          have same : second = project := (List.cons.inj (List.cons.inj begins).2).1
          have among : second ∈ Text.split '\n' catalog.version := by
            rw [shape]
            exact List.mem_cons_of_mem first List.mem_cons_self
          exact absurd (Text.mem_of_mem_split among (same ▸ comment.slash_mem))
            dotted.slash_not_mem

/-- The document of an accepted version has its header if and only if the version holds no newline,
and then it begins with exactly the lines of the header. -/
theorem hasHeader_iff {version minimum accepted : String}
    (checked : Version.checkMinimum version minimum = .ok accepted)
    (same : catalog.version = accepted) (flat : options.Flat)
    (rendered : render catalog declarations variant excluded options = .ok text) :
    (HasHeader (variant.moduleName options.moduleBase) text ↔ IsOneLine version) ∧
      (IsOneLine version → ∃ rest, Text.split '\n' text =
        headerLines version variant options ++ rest) := by
  obtain ⟨rfl, floor⟩ := Version.checkMinimum_eq_ok.mp checked
  subst same
  refine ⟨⟨isOneLine_of_hasHeader floor.dotted flat rendered, ?_⟩, ?_⟩
  · intro oneLine
    obtain ⟨rest, lines⟩ := exists_headerLines flat oneLine rendered
    exact hasHeader_of_headerLines lines
  · exact fun oneLine => exists_headerLines flat oneLine rendered

theorem hasHeader_empty : ∃ text,
    render ⟨"0.7.3", [], []⟩ Declarations.empty .sumo [] {} = .ok text ∧
      HasHeader "libsodium-wrappers-sumo" text := by
  have read : Version.components "0.7.3" = .ok [0, 7, 3] := by decide +kernel
  have checked : Version.checkMinimum "0.7.3" "0.7.3" = .ok "0.7.3" :=
    Version.checkMinimum_eq_ok.mpr ⟨rfl, Version.atLeast_self read⟩
  have flat : Options.Flat {} := ⟨by decide, by decide, by decide⟩
  have exists_render : ∃ text,
      render ⟨"0.7.3", [], []⟩ Declarations.empty .sumo [] {} = .ok text :=
    render_ok_iff.mpr (by simp [Declarations.empty])
  obtain ⟨text, rendered⟩ := exists_render
  exact ⟨text, rendered, (hasHeader_iff checked rfl flat rendered).1.mpr (by decide)⟩

/-- With a newline behind it a version is still accepted, and the line below it is empty. -/
theorem not_hasHeader_newline : Version.checkMinimum "0.7.3\n" "0.7.3" = .ok "0.7.3\n" ∧ ∃ text,
    render ⟨"0.7.3\n", [], []⟩ Declarations.empty .sumo [] {} = .ok text ∧
      ¬ HasHeader "libsodium-wrappers-sumo" text := by
  constructor
  · have compared : Version.compareVersions "0.7.3\n" "0.7.3" = .ok .eq :=
      Version.compareVersions_eq_ok.mpr ⟨[0, 7, 3], [0, 7, 3], by decide +kernel, by decide +kernel,
        by simp only [Version.compareComponents]; rfl⟩
    exact Version.checkMinimum_eq_ok.mpr ⟨rfl, .eq, compared, by decide⟩
  have flat : Options.Flat {} := ⟨by decide, by decide, by decide⟩
  have exists_render : ∃ text,
      render ⟨"0.7.3\n", [], []⟩ Declarations.empty .sumo [] {} = .ok text :=
    render_ok_iff.mpr (by simp [Declarations.empty])
  obtain ⟨text, rendered⟩ := exists_render
  obtain ⟨rest, lines⟩ := flat.exists_split_render
    (show Text.split '\n' "0.7.3\n" = ["0.7.3", ""] by decide) rendered
  refine ⟨text, rendered, ?_⟩
  rintro ⟨types, project, definitions, further, _, comment, _, begins⟩
  rw [lines] at begins
  have same : "" = project := (List.cons.inj (List.cons.inj begins).2).1
  exact absurd (same ▸ comment.slash_mem) (by decide)

end WrapperTypings.Document
