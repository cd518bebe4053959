import WrapperTypings.Proofs.Generation.Versions
import WrapperTypings.Proofs.Run.Failures
import WrapperTypings.Proofs.Text.Template

set_option autoImplicit false

/-! The failures of downloads. Once there is an address it is asked for once, and the download brings
the tree of the version, fails as an acquisition, or fails with a fault of the client or of the archive
that is not translated. There is no address if the template cannot be filled in; then nothing is asked
for, and that fault is not translated either. -/

namespace WrapperTypings.Archive

open Files (IsTraversable)
open Run (Abides abides_pure abides_get abides_fail abides_writeFile abides_makeDirectory run_bind)

/-- The failures that downloading is documented to have. -/
def IsAcquisition : Failure → Prop
  | .acquisition _ => True
  | _ => False

def faultOf? : Reading → Option ArchiveFault
  | .whole _ => none
  | .refused fault => some fault
  | .broken _ fault => some fault

def faultsOf : Content → List ArchiveFault
  | .archive entries => entries.flatMap (fun entry =>
      (faultOf? entry.reading).toList ++ (faultOf? entry.spoiled).toList)
  | .bytes _ fault => [fault]

/-- The failures that a reply can lead to and that are told as they are. -/
def untranslated : Reply → List Failure
  | .noAnswer (.other words) => [.client words]
  | .interrupted _ _ _ (.other words) => [.client words]
  | .answer _ _ content =>
      ((faultsOf content).filter (fun fault => fault.kind ≠ .damaged)).map Failure.archive
  | _ => []

def Fails (reply : Reply) (failure : Failure) : Prop :=
  IsAcquisition failure ∨ failure ∈ untranslated reply

private theorem fails_archiveFailure {status : Int} {reason : String} {content : Content}
    {fault : ArchiveFault} (met : fault ∈ faultsOf content) (archive : String) :
    Fails (.answer status reason content) (archiveFailure archive fault) := by
  unfold archiveFailure
  split
  · exact .inl trivial
  · rename_i sound
    exact .inr (List.mem_map_of_mem (List.mem_filter.mpr ⟨met, decide_eq_true sound⟩))

private theorem mem_faultsOf_readingOf {entries : List Packed} {spoiled : Bool} {name : List Char}
    {fault : ArchiveFault} (met : faultOf? (readingOf entries spoiled name) = some fault) :
    fault ∈ faultsOf (.archive entries) := by
  unfold readingOf at met
  split at met
  · rename_i entry found
    refine List.mem_flatMap.mpr ⟨entry, List.mem_reverse.mp (List.mem_of_find?_eq_some found), ?_⟩
    rw [List.mem_append, Option.mem_toList, Option.mem_toList]
    split at met
    · exact .inr met
    · exact .inl met
  · cases met

private theorem isUsable_takeWhile {text : List Char}
    (none : ∀ offset, .surrogate offset ∉ Text.pointsOf text) :
    Files.IsUsable (text.takeWhile (· ≠ '\x00')) := by
  refine ⟨fun null => ?_, fun offset member => ?_⟩
  · have kept := List.mem_takeWhile_imp null
    simp at kept
  · have absent := none offset
    have whole := List.takeWhile_append_dropWhile (p := (· ≠ '\x00')) (l := text)
    cases rest : text.dropWhile (· ≠ '\x00') with
    | nil =>
        rw [rest, List.append_nil] at whole
        exact absurd (whole ▸ member) absent
    | cons c more =>
        have null : c = '\x00' := by
          have stops := List.head?_dropWhile_not (· ≠ '\x00') text
          rw [rest] at stops
          simpa using stops
        rw [rest, null] at whole
        rw [← whole, Text.surrogate_mem_append_cons (by decide)] at absent
        exact absurd (.inl member) absent

private theorem isUsable_entryName (name : String) : Files.IsUsable (entryName name) := by
  refine isUsable_takeWhile (fun offset member => ?_)
  change _ ∈ Text.points (Text.hold name) at member
  rw [Text.hold, Text.points_ofPoints] at member
  simp at member

private theorem isTraversable_entryParts (name : String) :
    IsTraversable (entryParts (entryName name)) := by
  intro part member
  obtain ⟨among, _⟩ := List.mem_filter.mp member
  obtain ⟨letters, between, rfl⟩ := List.mem_map.mp among
  rw [Files.unusable?_eq_none_iff, String.toList_ofList]
  exact Files.isUsable_parts_iff.mpr (isUsable_entryName name) letters between

section
variable {frame : Frame} (kept : ∀ world tree, frame.allows world { world with tree })

private theorem abides_lies {allowed : Failure → Prop} (path : Files.Path)
    (accept : Files.Entry → Bool) :
    Abides frame allowed (lies path accept) := by
  refine abides_get.bind (fun world => ?_)
  cases world.tree.status world.here path.text with
  | ok entry => exact abides_pure _
  | error obstacle => exact abides_pure _

include kept in
private theorem abides_makeDirectories (reply : Reply) (archive : String) {base : Files.Path}
    {names : List String} (above : IsTraversable base.parts) (traversable : IsTraversable names) :
    Abides frame (Fails reply) (makeDirectories archive base names) := by
  induction names generalizing base with
  | nil => exact abides_pure ()
  | cons name rest ih =>
      obtain ⟨here, later⟩ := List.forall_mem_cons.mp traversable
      have longer : IsTraversable (base.parts ++ [name]) :=
        List.forall_mem_append.mpr ⟨above, fun _ member => List.mem_singleton.mp member ▸ here⟩
      have further : Abides frame (Fails reply)
          (makeDirectories archive ⟨base.slashes, base.parts ++ [name]⟩ rest) := ih longer later
      have made : Abides frame (Fails reply)
          (Run.makeDirectory (Files.Path.mk base.slashes (base.parts ++ [name])).text
            (extractionFailure archive)) :=
        abides_makeDirectory longer kept (fun _ => .inl trivial)
      exact (abides_lies _ _).bind (fun _present => .ite further (made.bind (fun _ => further)))

include kept in
private theorem abides_unpack {reply : Reply} {archive : String} {path : Files.Path}
    {reading : Reading}
    (traversable : IsTraversable path.parts)
    (met : ∀ fault, faultOf? reading = some fault → Fails reply (archiveFailure archive fault)) :
    Abides frame (Fails reply) (unpack archive path.text reading) := by
  have written (content : ByteArray) : Abides frame (Fails reply)
      (Run.writeFile path.text content (extractionFailure archive)) :=
    abides_writeFile traversable content kept (fun _ => .inl trivial)
  cases reading with
  | whole content => exact written content
  | refused fault => exact abides_fail (met fault rfl)
  | broken start fault => exact (written start).bind (fun _ => abides_fail (met fault rfl))

include kept in
private theorem abides_extractEntry {reply : Reply} {archive : String} {target : Files.Path}
    {reading : Reading} (traversable : IsTraversable target.parts) (name : String)
    (met : ∀ fault, faultOf? reading = some fault → Fails reply (archiveFailure archive fault)) :
    Abides frame (Fails reply) (extractEntry archive target reading (entryName name)) := by
  have inner := isTraversable_entryParts name
  have whole : IsTraversable (target.parts ++ entryParts (entryName name)) :=
    List.forall_mem_append.mpr ⟨traversable, inner⟩
  have above : IsTraversable (entryParts (entryName name)).dropLast :=
    fun part member => inner part (List.dropLast_subset _ member)
  refine (abides_makeDirectories kept reply archive traversable above).bind (fun _ => ?_)
  refine .ite ?_ (abides_unpack kept whole met)
  exact (abides_lies _ _).bind (fun _present =>
    .ite (abides_pure _) (abides_makeDirectory whole kept (fun _ => .inl trivial)))

include kept in
private theorem abides_extractFrom (status : Int) (reason archive : String) {target : Files.Path}
    (traversable : IsTraversable target.parts) (entries rest : List Packed) (spoiled : Bool) :
    Abides frame (Fails (.answer status reason (.archive entries)))
      (extractFrom archive target entries spoiled rest) := by
  induction rest generalizing spoiled with
  | nil => exact abides_pure ()
  | cons entry rest ih =>
      refine (abides_extractEntry kept traversable entry.name ?_).bind (fun _ => ih _)
      exact fun fault met => fails_archiveFailure (mem_faultsOf_readingOf met) archive

end

section
variable {url : String} {timeout : Value} {directory : Files.Path}

private theorem abides_receive {frame : Frame} {α : Type} {next : Content → Run α} (reply : Reply)
    (kept : ∀ world tree, frame.allows world { world with tree })
    (traversable : IsTraversable directory.parts)
    (further : ∀ status reason content, reply = .answer status reason content →
      Abides frame (Fails reply) (next content)) :
    Abides frame (Fails reply) (receive url (directory.child fileName).text reply >>= next) := by
  have inside : IsTraversable (directory.parts ++ [fileName]) :=
    List.forall_mem_append.mpr ⟨traversable, fun _ member => List.mem_singleton.mp member ▸ by decide⟩
  have written (content : ByteArray) : Abides frame (Fails reply)
      (Run.writeFile (directory.child fileName).text content
        (fun fault => downloadFailure url fault.message)) := by
    rw [Files.Path.child_of_isName isName_fileName]
    exact abides_writeFile inside content kept (fun _ => .inl trivial)
  cases reply with
  | noAnswer fault =>
      cases fault with
      | request words => exact abides_fail (.inl trivial)
      | other words => exact abides_fail (.inr (List.mem_singleton.mpr rfl))
  | answer status reason content =>
      rw [receive]
      split
      · exact abides_fail (.inl trivial)
      · rw [bind_assoc]
        exact (written _).bind (fun _ => further status reason content rfl)
  | interrupted status reason received fault =>
      rw [receive]
      split
      · exact abides_fail (.inl trivial)
      · rw [bind_assoc]
        refine (written _).bind (fun _ => ?_)
        cases fault with
        | request words => exact abides_fail (.inl trivial)
        | other words => exact abides_fail (.inr (List.mem_singleton.mpr rfl))

/-- Once there is an address, it is asked for once, and every failure is one after the reply. -/
theorem source_of_filled {template : Value} {version : String}
    (traversable : IsTraversable directory.parts) (world : World)
    (addressed : address world.attributes template version = .ok url) :
    ((source template timeout version directory).run world).2.requests =
        world.requests ++ [⟨url, timeout⟩] ∧
      ∀ failure, (source template timeout version directory).result world = .error failure →
        Fails (world.reply url) failure := by
  have requested (before : World) : (Run.request url timeout).run before =
      (.ok (before.reply url), { before with requests := before.requests ++ [⟨url, timeout⟩] }) := rfl
  unfold Run.result source
  rw [Run.run_get_bind, addressed, run_bind, Run.run_lift_id]
  change ((download url timeout (directory.child fileName).text >>= bring version directory).run
      world).2.requests = _ ∧ _
  rw [download, bind_assoc, Run.run_write_bind, bind_assoc, run_bind, requested]
  refine @Abides.ended _ (.keeping World.requests) _ _ ?_ _
  refine abides_receive _ (fun _ _ => rfl) traversable ?_
  intro status reason content answered
  rw [answered]
  cases content with
  | archive entries =>
      exact (abides_extractFrom (fun _ _ => rfl) status reason _ traversable entries entries
        false).bind (fun _ => abides_pure _)
  | bytes content fault =>
      refine (abides_fail ?_).bind (fun _ => abides_pure _)
      exact fails_archiveFailure (List.mem_singleton.mpr rfl) _

end

def treeOf (directory : Files.Path) (version : String) : Files.Path :=
  ⟨directory.slashes, directory.parts ++ ["libsodium.js-" ++ version]⟩

private theorem source_of_unfilled {template version : String} {fault : Text.Template.Fault}
    (timeout : Value) (directory : Files.Path) (world : World)
    (unfilled :
      Text.Template.expand world.attributes "version" version template = .error fault) :
    (source (.string template) timeout version directory).run world =
      (.error (.template fault), world) := by
  have noAddress : address world.attributes (.string template) version = .error (.template fault) :=
    Outcome.mapError_eq_error.mpr ⟨fault, unfilled, rfl⟩
  unfold source
  rw [Run.run_get_bind, noAddress, run_bind, Run.run_lift_id]

end WrapperTypings.Archive
