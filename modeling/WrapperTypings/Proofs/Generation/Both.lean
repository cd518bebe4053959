import WrapperTypings.Proofs.Archive.Confined
import WrapperTypings.Proofs.Files.Closed
import WrapperTypings.Proofs.Generation.Local
import WrapperTypings.Proofs.Loading.Unreadable

set_option autoImplicit false

/-! Both documents of a generator, one after the other. In an existing directory they are two files, and
the second generation leaves the first document as it is. An output that is no directory is the file of
both, so that the second document takes the place of the first. -/

namespace WrapperTypings

open Files (IsName IsNamed Location Path Tree)
open Run (Within within_change)

/-- The directories of a run, what it has printed and what it cannot print stay the same, and everything
keeps lying in a directory. -/
def Frame.orderly : Frame where
  allows before after :=
    (after.here = before.here ∧ after.scratch = before.scratch ∧ after.printed = before.printed ∧
        after.unprintable = before.unprintable) ∧
      (before.tree.Closed → after.tree.Closed)
  refl _ := ⟨⟨rfl, rfl, rfl, rfl⟩, id⟩
  trans := by
    rintro first second third ⟨⟨here, scratch, printed, unprintable⟩, closed⟩ ⟨⟨hereNext, scratchNext,
      printedNext, unprintableNext⟩, closedNext⟩
    exact ⟨⟨hereNext.trans here, scratchNext.trans scratch, printedNext.trans printed,
      unprintableNext.trans unprintable⟩, closedNext ∘ closed⟩

theorem Archive.hosts_orderly (directory : Path) : Hosts Frame.orderly directory where
  logged _ _ := ⟨⟨rfl, rfl, rfl, rfl⟩, id⟩
  requested _ _ := ⟨⟨rfl, rfl, rfl, rfl⟩, id⟩
  writes _ _ _ _ := within_change (fun _ _ written =>
    ⟨⟨rfl, rfl, rfl, rfl⟩, fun closed => Tree.Closed.write closed written⟩)
  makes _ _ _ := within_change (fun _ _ made =>
    ⟨⟨rfl, rfl, rfl, rfl⟩, fun closed => Tree.Closed.makeDirectory closed made⟩)

theorem Frame.serves_orderly (version : String) : Frame.orderly.Serves version where
  logged _ _ := ⟨⟨rfl, rfl, rfl, rfl⟩, id⟩
  asked _ := ⟨⟨rfl, rfl, rfl, rfl⟩, id⟩
  written _ _ _ _ written := ⟨⟨rfl, rfl, rfl, rfl⟩, fun closed => Tree.Closed.write closed written⟩
  made _ _ _ made := ⟨⟨rfl, rfl, rfl, rfl⟩, fun closed => Tree.Closed.makeDirectory closed made⟩
  removed _ location := ⟨⟨rfl, rfl, rfl, rfl⟩, fun closed => Tree.Closed.remove closed location⟩

namespace Document

variable {catalog other : Catalog} {declarations : Declarations} {variant : Variant}
  {excluded : List String} {options : Options} {document : String}

private theorem exists_render_eq
    (rendered : render catalog declarations variant excluded options = .ok document) :
    ∃ rest, document =
      "// Type definitions for " ++ (options.moduleBase ++ (variant.suffix ++ (" " ++ rest))) := by
  obtain ⟨all, found, same⟩ := Outcome.map_eq_ok.mp rendered
  obtain ⟨declared, _, assembled⟩ := Outcome.bind_eq_ok.mp found
  cases assembled
  obtain ⟨more, joined⟩ := Text.exists_join_cons "\n"
    ("// Type definitions for " ++ variant.moduleName options.moduleBase ++ " " ++ catalog.version)
    _
  refine ⟨catalog.version ++ more, ?_⟩
  rw [← same]
  apply joined.trans
  unfold Variant.moduleName
  simp only [String.append_assoc]

/-- No catalog has the same document for both variants. -/
theorem render_standard_ne_sumo {standard sumo : String}
    (rendered : render catalog declarations .standard excluded options = .ok standard)
    (renderedOther : render other declarations .sumo excluded options = .ok sumo) :
    Text.utf8 standard ≠ Text.utf8 sumo := by
  obtain ⟨rest, begins⟩ := exists_render_eq rendered
  obtain ⟨restOther, beginsOther⟩ := exists_render_eq renderedOther
  have lines : standard.toList = ("// Type definitions for " ++ options.moduleBase).toList ++
      ' ' :: rest.toList := by
    rw [begins]
    simp [Variant.suffix]
  have linesOther : sumo.toList = ("// Type definitions for " ++ options.moduleBase).toList ++
      '-' :: ("sumo " ++ restOther).toList := by
    rw [beginsOther]
    simp [Variant.suffix]
  intro same
  have letters : Text.scalars standard = Text.scalars sumo :=
    String.ofList_inj.mp (String.toByteArray_inj.mp same)
  unfold Text.scalars Text.points at letters
  rw [lines, linesOther, Text.pointsOf_append_cons (by decide), Text.pointsOf_append_cons (by decide),
    Text.pointsOf_cons (by decide), Text.pointsOf_cons (by decide), List.filterMap_append,
    List.filterMap_append, List.append_cancel_left_eq] at letters
  cases letters

private theorem unreadable_of_render
    (rendered : render catalog declarations variant excluded options = .ok document) :
    Unreadable (Text.utf8 document) := by
  obtain ⟨rest, begins⟩ := exists_render_eq rendered
  have slash : document.toList = '/' :: ("/ Type definitions for ".toList ++
      (options.moduleBase ++ (variant.suffix ++ (" " ++ rest))).toList) := by
    rw [begins, String.toList_append]
    rfl
  exact unreadable_of_slash slash

end Document

namespace Generator

section
variable {generator : Generator} {variant : Variant} {world after : World} {path : Path}

def Downloads (generator : Generator) : Prop :=
  generator.localSource = none →
    ∃ template timeout, generator.source = Archive.source template timeout

theorem Downloads.confined (downloads : generator.Downloads)
    (download : generator.localSource = none) : Archive.Confined generator.source := by
  obtain ⟨template, timeout, source⟩ := downloads download
  rw [source]
  exact Archive.confined_source template timeout

theorem downloads_smallGenerator (output : String) : (smallGenerator output).Downloads :=
  nofun

private theorem within_orderly (downloads : generator.Downloads) (variant : Variant) :
    Within Frame.orderly (generator.generate variant) := by
  refine (Frame.serves_orderly generator.version).within_generate (fun download directory => ?_) _
  obtain ⟨template, timeout, source⟩ := downloads download
  rw [source]
  exact (Archive.hosts_orderly directory).within_source template timeout generator.version

theorem orderly_of_run (downloads : generator.Downloads) {ended : Except Failure Path}
    (ran : (generator.generate variant).run world = (ended, after)) :
    Frame.orderly.allows world after := by
  have inOrder := within_orderly downloads variant world
  rw [ran] at inOrder
  exact inOrder

private theorem exists_placed_of_run (downloads : generator.Downloads) (closed : world.tree.Closed)
    (scratch : IsNamed world.scratch) {ended : Except Failure Path}
    (ran : (generator.generate variant).run world = (ended, after)) :
    ((∃ failure, ended = .error failure) ∧ after.tree.Same world.tree) ∨
      ∃ path document location, ended = answer path document ∧
        Filled generator variant world after path document (written document) ∧
        Tree.Placed world.here path.text (written document) world.tree after.tree location := by
  have outcome := run_generate_written generator variant world downloads.confined closed scratch
  rw [ran] at outcome
  rcases outcome with ⟨fails, same, _⟩ | ⟨path, document, kept, ends, target, describes, same, put⟩
  · exact .inl ⟨fails, same⟩
  · obtain ⟨location, placed⟩ := Tree.exists_placed same put
    refine .inr ⟨path, document, location, ends, ⟨target, describes, Tree.read_of_write put, location,
      placed.located, fun other apart => ?_⟩, placed⟩
    exact (placed.agree.entries other apart).symm

theorem exists_delivered (downloads : generator.Downloads) (closed : world.tree.Closed)
    (scratch : IsNamed world.scratch)
    (ran : (generator.generate variant).run world = (.ok path, after)) :
    ∃ document location, Delivered generator variant world after path document ∧
      Tree.Placed world.here path.text (Text.utf8 document) world.tree after.tree location := by
  rcases exists_placed_of_run downloads closed scratch ran with
    ⟨⟨_, impossible⟩, _⟩ | ⟨_, document, location, ends, filled, placed⟩
  · cases impossible
  · obtain ⟨encodable, rfl⟩ := answer_eq_ok.mp ends.symm
    rw [written_of_encodable encodable] at filled placed
    exact ⟨document, location, ⟨filled, encodable⟩, placed⟩

/-- A generation that fails has changed nothing, unless it has emptied the file of a document that
cannot be encoded. -/
theorem same_or_emptied_of_run (downloads : generator.Downloads) (closed : world.tree.Closed)
    (scratch : IsNamed world.scratch) {failure : Failure}
    (ran : (generator.generate variant).run world = (.error failure, after)) :
    after.tree.Same world.tree ∨ ∃ path document fault location,
      failure = .unencodable fault.message ∧
      Emptied generator variant world after path document fault ∧
      Tree.Placed world.here path.text ByteArray.empty world.tree after.tree location := by
  rcases exists_placed_of_run downloads closed scratch ran with
    ⟨_, same⟩ | ⟨path, document, location, ends, filled, placed⟩
  · exact .inl same
  · rcases delivered_or_emptied filled with ⟨answered, _⟩ | ⟨fault, answered, emptied⟩
    · exact nomatch ends.trans answered
    · have content : written document = ByteArray.empty := by
        rw [written, emptied.unencodable]
      exact .inr ⟨path, document, fault, location, Except.error.inj (ends.trans answered), emptied,
        content ▸ placed⟩

variable {next : World} {other : Variant} {second : Path}

theorem paths_of_placed {content : ByteArray} {location : Location}
    (placed : Tree.Placed world.here path.text content world.tree next.tree location)
    (here : next.here = world.here)
    (target : (generator.outputPath variant).result world = .ok path)
    (targetNext : (generator.outputPath other).result next = .ok second) :
    (world.tree.status world.here generator.output.text = .ok .directory ∧
        path = generator.documentPath variant ∧ second = generator.documentPath other) ∨
      (world.tree.status world.here generator.output.text ≠ .ok .directory ∧
        path = generator.output ∧ second = generator.output) := by
  have same : world.tree.status world.here generator.output.text = .ok .directory ↔
      next.tree.status next.here generator.output.text = .ok .directory := by
    rw [here]
    exact placed.agree.status_directory_iff
  rcases outputPath_eq_ok target with ⟨directory, first⟩ | ⟨free, first⟩ <;>
    rcases outputPath_eq_ok targetNext with ⟨directoryNext, last⟩ | ⟨freeNext, last⟩
  · exact .inl ⟨directory, first, last⟩
  · exact absurd (same.mp directory) freeNext
  · exact absurd (same.mpr directoryNext) free
  · exact .inr ⟨free, first, last⟩

/-- In a directory the two documents come to lie in different places, so that the second one leaves the
first one as it is. -/
theorem kept_of_placed {content contentOther : ByteArray} {location locationOther : Location}
    (plain : generator.output.Plain) (apart : variant ≠ other)
    (placed : Tree.Placed world.here (generator.documentPath variant).text content world.tree
      next.tree location)
    (placedOther : Tree.Placed world.here (generator.documentPath other).text contentOther next.tree
      after.tree locationOther) :
    (generator.documentPath variant).text ≠ (generator.documentPath other).text ∧
      after.tree.read world.here (generator.documentPath variant).text = .ok content := by
  have first : location = generator.place world.here variant :=
    Tree.locate_text (plain_documentPath plain variant) placed.located
  have last : locationOther = generator.place world.here other :=
    Tree.locate_text (plain_documentPath plain other) placedOther.located
  have different : location ≠ locationOther :=
    fun same => apart (place_injective (first.symm.trans (same.trans last)))
  refine ⟨fun equal => ?_, placed.read_of_agree placedOther.agree different⟩
  have located := placed.agree.locate placed.located
  rw [equal] at located
  exact different (Except.ok.inj (located.symm.trans placedOther.located))

/-- A document of a local tree that is generated into a directory is no part of the catalog that the
next document is of, not even if it came to lie among the descriptors. -/
theorem describes_of_run {source : Path} (fromTree : generator.localSource = some source)
    (sourcePlain : source.Plain) (outputPlain : generator.output.Plain)
    (named : world.tree.Named) (here : IsNamed world.here)
    (target : world.tree.status world.here generator.output.text = .ok .directory)
    (ran : (generator.generate variant).run world = (.ok path, after))
    (tree : next.tree = after.tree) (hereNext : next.here = world.here) {document : String}
    (describes : Describes generator other next document) :
    Describes generator other world document := by
  obtain ⟨catalog, loaded, rendered⟩ := (describes_iff_of_local fromTree).mp describes
  refine (describes_iff_of_local fromTree).mpr ⟨catalog, ?_, rendered⟩
  have outcome := run_generate_of_local fromTree (result_outputPath target variant)
  rw [ran] at outcome
  rcases outcome with ⟨⟨_, impossible⟩, _⟩ | ⟨first, ends, describesFirst, put⟩
  · cases impossible
  obtain ⟨encodable, _⟩ := answer_eq_ok.mp ends.symm
  rw [written_of_encodable encodable] at put
  obtain ⟨_, _, renderedFirst⟩ := (describes_iff_of_local fromTree).mp describesFirst
  obtain ⟨location, located, free, changed⟩ := Tree.write_eq_ok put
  have plain := plain_documentPath outputPlain variant
  have usable := (Tree.locate_eq_ok_iff.mp located).1.1
  have place : location = (generator.documentPath variant).location world.here :=
    Tree.locate_text plain located
  have placeNamed : IsNamed location := place ▸ Path.isNamed_location plain here
  obtain ⟨slashes, above, last, path⟩ := generator.exists_documentPath
  have split := place.trans (place_eq (path variant) world.here)
  have among : last ++ variant.ending ∈ (generator.documentPath variant).parts := by
    rw [path]
    exact List.mem_append_right _ (List.mem_singleton_self _)
  rw [split] at free changed placeNamed
  refine SourceTree.load_of_put sourcePlain named hereNext (tree.trans changed) free ?_ ?_ ?_
    (Document.unreadable_of_render renderedFirst) loaded
  · exact placeNamed _ (List.mem_append_right _ (List.mem_singleton_self _))
  · exact (Path.unusable?_text _).mp usable _ among
  · exact Variant.append_ending_ne (by decide) last variant

end

end Generator

end WrapperTypings
