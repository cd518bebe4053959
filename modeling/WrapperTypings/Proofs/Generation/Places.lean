import WrapperTypings.Proofs.Loading.Agreement
import WrapperTypings.Proofs.Generation.Output

set_option autoImplicit false

namespace WrapperTypings

open Files (IsName IsPart Location Tree)

namespace Text

private theorem exists_parts_append (separator : Char) (text : List Char) :
    ∃ first last, ∀ more, separator ∉ more →
      parts separator (text ++ more) = first ++ [last ++ more] := by
  induction text with
  | nil => exact ⟨[], [], fun more absent => parts_of_not_mem absent⟩
  | cons c rest ih =>
      obtain ⟨first, last, ih⟩ := ih
      by_cases same : c = separator
      · refine ⟨[] :: first, last, fun more absent => ?_⟩
        rw [List.cons_append, parts, if_pos same, ih more absent]
        rfl
      · cases first with
        | nil =>
            refine ⟨[], c :: last, fun more absent => ?_⟩
            rw [List.cons_append, parts, if_neg same, ih more absent]
            rfl
        | cons part others =>
            refine ⟨(c :: part) :: others, last, fun more absent => ?_⟩
            rw [List.cons_append, parts, if_neg same, ih more absent]
            rfl

end Text

theorem Files.Path.leadingSlashes_append {text more : List Char} (absent : '/' ∉ more) :
    leadingSlashes (text ++ more) = leadingSlashes text := by
  have taken : (text ++ more).takeWhile (· = '/') = text.takeWhile (· = '/') := by
    induction text with
    | nil =>
        cases more with
        | nil => rfl
        | cons c others =>
            have other : c ≠ '/' := (List.ne_of_not_mem_cons absent).symm
            exact List.takeWhile_cons_of_neg (by simp [other])
    | cons c others ih => by_cases slash : c = '/' <;> simp [slash, ih]
  unfold leadingSlashes
  rw [taken]

def Variant.ending (variant : Variant) : String :=
  variant.suffix ++ ".d.ts"

namespace Variant

private theorem ending_plain (variant : Variant) : '/' ∉ variant.ending.toList := by
  cases variant <;> decide

private theorem getLast?_append_ending (last : String) (variant : Variant) :
    (last ++ variant.ending).toList.getLast? = some 's' := by
  rw [String.toList_append, List.getLast?_append]
  cases variant <;> rfl

theorem append_ending_ne {other : String} (different : other.toList.getLast? ≠ some 's')
    (last : String) (variant : Variant) : last ++ variant.ending ≠ other := by
  intro same
  rw [← same] at different
  exact different (getLast?_append_ending last variant)

private theorem append_ending_injective {last : String} {variant other : Variant}
    (same : last ++ variant.ending = last ++ other.ending) : variant = other := by
  have endings : variant.ending.toList = other.ending.toList := by
    have letters := congrArg String.toList same
    rw [String.toList_append, String.toList_append] at letters
    exact List.append_cancel_left letters
  cases variant <;> cases other <;> first | rfl | exact absurd endings (by decide)

private theorem exists_ofText_fileName (base : String) : ∃ slashes first last, ∀ variant : Variant,
    Files.Path.ofText (variant.fileName base) = ⟨slashes, first ++ [last ++ variant.ending]⟩ := by
  obtain ⟨first, last, split⟩ := Text.exists_parts_append '/' base.toList
  let counted := fun part => part ≠ "" && part ≠ "."
  refine ⟨Files.Path.leadingSlashes base.toList, (first.map String.ofList).filter counted,
    String.ofList last, fun variant => ?_⟩
  have whole : (variant.fileName base).toList = base.toList ++ variant.ending.toList := by
    unfold fileName ending
    rw [String.append_assoc, String.toList_append]
  have name : String.ofList (last ++ variant.ending.toList) =
      String.ofList last ++ variant.ending := by
    rw [String.ofList_append, String.ofList_toList]
  have kept : [String.ofList last ++ variant.ending].filter counted =
      [String.ofList last ++ variant.ending] := by
    have filled : String.ofList last ++ variant.ending ≠ "" := append_ending_ne (by decide) _ _
    have notPoint : String.ofList last ++ variant.ending ≠ "." := append_ending_ne (by decide) _ _
    simp [counted, filled, notPoint]
  unfold Files.Path.ofText Text.split
  rw [whole, Files.Path.leadingSlashes_append variant.ending_plain, split _ variant.ending_plain,
    List.map_append, List.map_singleton, name, List.filter_append]
  exact congrArg (fun parts => Files.Path.mk _ (_ ++ parts)) kept

end Variant

namespace Generator

def documentPath (generator : Generator) (variant : Variant) : Files.Path :=
  generator.output.child (variant.fileName generator.configuration.moduleBase.display)

theorem exists_documentPath (generator : Generator) : ∃ slashes first last, ∀ variant,
    generator.documentPath variant = ⟨slashes, first ++ [last ++ variant.ending]⟩ := by
  obtain ⟨slashes, first, last, named⟩ :=
    Variant.exists_ofText_fileName generator.configuration.moduleBase.display
  by_cases relative : slashes = 0
  · refine ⟨generator.output.slashes, generator.output.parts ++ first, last, fun variant => ?_⟩
    unfold documentPath Files.Path.child Files.Path.join
    rw [named variant, if_pos relative, List.append_assoc]
  · refine ⟨slashes, first, last, fun variant => ?_⟩
    unfold documentPath Files.Path.child Files.Path.join
    rw [named variant, if_neg relative]

theorem plain_documentPath {generator : Generator} (plain : generator.output.Plain)
    (variant : Variant) : (generator.documentPath variant).Plain :=
  plain.join (Files.Path.plain_ofText _)

theorem documentPath_injective {generator : Generator} {variant other : Variant}
    (same : generator.documentPath variant = generator.documentPath other) : variant = other := by
  obtain ⟨slashes, first, last, path⟩ := generator.exists_documentPath
  rw [path, path, Files.Path.mk.injEq, List.append_cancel_left_eq, List.singleton_inj] at same
  exact Variant.append_ending_injective same.2

def place (generator : Generator) (here : Location) (variant : Variant) : Location :=
  (generator.documentPath variant).location here

theorem place_eq {generator : Generator} {slashes : Nat} {first : List String} {last : String}
    {variant : Variant}
    (path : generator.documentPath variant = ⟨slashes, first ++ [last ++ variant.ending]⟩)
    (here : Location) : generator.place here variant =
      (Files.Path.mk slashes first).location here ++ [last ++ variant.ending] := by
  unfold place
  rw [path]
  refine Files.Path.location_append ?_ ⟨slashes, first⟩ here
  rw [List.mem_singleton]
  exact fun same => Variant.append_ending_ne (by decide) last variant same.symm

theorem exists_place (generator : Generator) (here : Location) : ∃ directory last, ∀ variant,
    generator.place here variant = directory ++ [last ++ variant.ending] := by
  obtain ⟨slashes, first, last, path⟩ := generator.exists_documentPath
  exact ⟨(Files.Path.mk slashes first).location here, last,
    fun variant => place_eq (path variant) here⟩

theorem place_injective {generator : Generator} {here : Location} {variant other : Variant}
    (same : generator.place here variant = generator.place here other) : variant = other := by
  obtain ⟨directory, last, place⟩ := generator.exists_place here
  rw [place, place, List.append_cancel_left_eq, List.singleton_inj] at same
  exact Variant.append_ending_injective same

theorem result_outputPath {generator : Generator} {world : World}
    (target : world.tree.status world.here generator.output.text = .ok .directory)
    (variant : Variant) :
    (generator.outputPath variant).result world = .ok (generator.documentPath variant) := by
  unfold Run.result outputPath
  rw [Run.run_get_bind]
  dsimp only
  rw [target]
  rfl

theorem result_outputPath_of_file {generator : Generator} {world : World} {content : ByteArray}
    (target : world.tree.status world.here generator.output.text = .ok (.file content))
    (variant : Variant) : (generator.outputPath variant).result world = .ok generator.output := by
  unfold Run.result outputPath
  rw [Run.run_get_bind]
  dsimp only
  rw [target]
  rfl

theorem outputPath_eq_ok {generator : Generator} {world : World} {variant : Variant}
    {path : Files.Path} (target : (generator.outputPath variant).result world = .ok path) :
    (world.tree.status world.here generator.output.text = .ok .directory ∧
        path = generator.documentPath variant) ∨
      (world.tree.status world.here generator.output.text ≠ .ok .directory ∧
        path = generator.output) := by
  by_cases directory : world.tree.status world.here generator.output.text = .ok .directory
  · rw [result_outputPath directory] at target
    exact .inl ⟨directory, (Except.ok.inj target).symm⟩
  · refine .inr ⟨directory, ?_⟩
    unfold Run.result outputPath at target
    rw [Run.run_get_bind] at target
    dsimp only at target
    split at target
    · rename_i found
      exact absurd found directory
    all_goals first | exact (Except.ok.inj target).symm | cases target

end Generator

end WrapperTypings
