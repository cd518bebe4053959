import WrapperTypings.Archive
import WrapperTypings.Proofs.Run.Frame

set_option autoImplicit false

/-! Downloads stay inside the directory they are given. Whatever a server answers and whatever the
entries of an archive are called, the parts that count of their names are names of files, so that
files and directories are made nowhere but below the directory. -/

namespace WrapperTypings

open Files (IsName IsNamed Below)
open Run (Within within_pure within_fail within_lift within_get within_modify within_change
  observes_write)

namespace Files.Path

private theorem ofText_of_isName {name : String} (file : IsName name) :
    ofText name = ⟨0, [name]⟩ := by
  obtain ⟨filled, notPoint, _, noSlash⟩ := file
  have leading : leadingSlashes name.toList = 0 := by
    unfold leadingSlashes
    cases shape : name.toList with
    | nil => rfl
    | cons c rest =>
        rw [shape, List.mem_cons, not_or] at noSlash
        rw [List.takeWhile_cons_of_neg (by simpa using fun same => noSlash.1 same.symm)]
        rfl
  have whole : Text.split '/' name = [name] := by
    unfold Text.split
    rw [Text.parts_of_not_mem noSlash, List.map_singleton, String.ofList_toList]
  unfold ofText
  rw [leading, whole]
  simp [filled, notPoint]

theorem child_of_isName {base : Path} {name : String} (file : IsName name) :
    base.child name = ⟨base.slashes, base.parts ++ [name]⟩ := by
  unfold child
  rw [ofText_of_isName file]
  rfl

end Files.Path

namespace Archive

private theorem isName_of_mem_entryParts {name : List Char} {part : String}
    (member : part ∈ entryParts name) : IsName part := by
  obtain ⟨among, counts⟩ := List.mem_filter.mp member
  obtain ⟨characters, between, same⟩ := List.mem_map.mp among
  simp only [Bool.and_eq_true, decide_eq_true_eq] at counts
  refine ⟨counts.1.1, counts.1.2, counts.2, ?_⟩
  rw [← same, String.toList_ofList]
  exact Text.not_mem_of_mem_parts between

/-- A frame that leaves room for a download into a directory: for entries of the log, requests, and
files and directories below the directory. -/
structure Hosts (frame : Frame) (directory : Files.Path) : Prop where
  logged : ∀ world entries, frame.allows world (world.logged entries)
  requested : ∀ world request,
    frame.allows world { world with requests := world.requests ++ [request] }
  writes : ∀ names, IsNamed names → ∀ content failure, Within frame
    (Run.writeFile (Files.Path.mk directory.slashes (directory.parts ++ names)).text content failure)
  makes : ∀ names, IsNamed names → ∀ failure, Within frame
    (Run.makeDirectory (Files.Path.mk directory.slashes (directory.parts ++ names)).text failure)

section
variable {frame : Frame} {directory : Files.Path}

theorem Hosts.descend (hosts : Hosts frame directory) {name : String} (file : IsName name) :
    Hosts frame ⟨directory.slashes, directory.parts ++ [name]⟩ := by
  have longer {names : List String} (named : IsNamed names) : IsNamed (name :: names) :=
    List.forall_mem_cons.mpr ⟨file, named⟩
  refine ⟨hosts.logged, hosts.requested, ?_, ?_⟩
  · intro names named content failure
    rw [List.append_assoc]
    exact hosts.writes (name :: names) (longer named) content failure
  · intro names named failure
    rw [List.append_assoc]
    exact hosts.makes (name :: names) (longer named) failure

private theorem within_lies (path : Files.Path) (accept : Files.Entry → Bool) :
    Within frame (lies path accept) := by
  refine within_get.bind (fun world => ?_)
  cases world.tree.status world.here path.text with
  | ok entry => exact within_pure _
  | error obstacle => exact within_pure _

theorem Hosts.within_makeDirectories (hosts : Hosts frame directory) (archive : String)
    {names : List String} (named : IsNamed names) :
    Within frame (makeDirectories archive directory names) := by
  induction names generalizing directory with
  | nil => exact within_pure ()
  | cons name rest ih =>
      obtain ⟨file, later⟩ := List.forall_mem_cons.mp named
      have made := hosts.makes [name] (fun _ member => List.mem_singleton.mp member ▸ file)
      have further := ih (hosts.descend file) later
      exact (within_lies _ _).bind (fun _present =>
        Within.ite further ((made _).bind (fun _ => further)))

theorem Hosts.within_unpack (hosts : Hosts frame directory) (archive : String)
    {names : List String} (named : IsNamed names) (reading : Reading) :
    Within frame
      (unpack archive (Files.Path.mk directory.slashes (directory.parts ++ names)).text reading) := by
  cases reading with
  | whole content => exact hosts.writes _ named _ _
  | refused fault => exact within_fail _
  | broken start fault => exact (hosts.writes _ named _ _).bind (fun _ => within_fail _)

theorem Hosts.within_extractEntry (hosts : Hosts frame directory) (archive : String)
    (reading : Reading) (name : List Char) :
    Within frame (extractEntry archive directory reading name) := by
  have named : IsNamed (entryParts name) := fun _ member => isName_of_mem_entryParts member
  have above : IsNamed (entryParts name).dropLast :=
    fun part member => named part (List.dropLast_subset _ member)
  refine (hosts.within_makeDirectories archive above).bind (fun _ => ?_)
  refine Within.ite ?_ (hosts.within_unpack archive named reading)
  exact (within_lies _ _).bind (fun _present =>
    Within.ite (within_pure _) (hosts.makes _ named _))

theorem Hosts.within_extractFrom (hosts : Hosts frame directory) (archive : String)
    (entries rest : List Packed) (spoiled : Bool) :
    Within frame (extractFrom archive directory entries spoiled rest) := by
  induction rest generalizing spoiled with
  | nil => exact within_pure ()
  | cons entry rest ih => exact (hosts.within_extractEntry archive _ _).bind (fun _ => ih _)

theorem isName_fileName : IsName fileName := by
  decide

theorem Hosts.within_download (hosts : Hosts frame directory) (url : String) (timeout : Value) :
    Within frame (download url timeout (directory.child fileName).text) := by
  have named : IsNamed [fileName] := fun _ member => List.mem_singleton.mp member ▸ isName_fileName
  have written (content : ByteArray) (failure : Files.FileFault → Failure) :
      Within frame (Run.writeFile (directory.child fileName).text content failure) := by
    rw [Files.Path.child_of_isName isName_fileName]
    exact hosts.writes _ named content failure
  have requested : Within frame (Run.request url timeout) :=
    (within_modify (fun world => hosts.requested world ⟨url, timeout⟩)).bind (fun _ =>
      within_get.bind (fun _ => within_pure _))
  refine ((observes_write _ _ _).within hosts.logged).bind (fun _ => ?_)
  refine requested.bind (fun reply => ?_)
  cases reply with
  | noAnswer fault => exact within_fail _
  | answer status reason content =>
      rw [receive]
      split
      · exact within_fail _
      · exact (written _ _).bind (fun _ => within_pure _)
  | interrupted status reason received fault =>
      rw [receive]
      split
      · exact within_fail _
      · exact (written _ _).bind (fun _ => within_fail _)

theorem Hosts.within_source (hosts : Hosts frame directory) (template timeout : Value)
    (version : String) : Within frame (source template timeout version directory) := by
  refine within_get.bind (fun world => (within_lift id _).bind (fun url => ?_))
  refine (hosts.within_download url timeout).bind (fun content => ?_)
  cases content with
  | archive entries =>
      exact (hosts.within_extractFrom _ entries entries false).bind (fun _ => within_pure _)
  | bytes _ _ => exact (within_fail _).bind (fun _ => within_pure _)

end

theorem hosts_keeping_fetched (directory : Files.Path) :
    Hosts (Frame.keeping World.fetched) directory where
  logged _ _ := rfl
  requested _ _ := rfl
  writes _ _ _ _ := within_change (fun _ _ _ => rfl)
  makes _ _ _ := within_change (fun _ _ _ => rfl)

private theorem hosts_inside {location : Files.Location} (named : IsNamed location) :
    Hosts (Frame.inside location) (Files.Path.ofLocation location) := by
  have changed {before : World} {names : List String} {found : Files.Location} {entry : Files.Entry}
      (file : IsNamed names)
      (located : before.tree.locate before.here
        (Files.Path.ofLocation (location ++ names)).text = .ok found)
      (free : before.tree.get? found ≠ some .directory) :
      (Frame.inside location).allows before
        { before with tree := before.tree.put found entry } := by
    have same := Files.Tree.locate_ofLocation (Files.isNamed_append.mpr ⟨named, file⟩) located
    refine ⟨rfl, rfl, ?_⟩
    intro directory other outside
    refine Files.Tree.get?_put_of_ne ?_
    intro equal
    rw [same] at equal
    cases names with
    | nil =>
        rw [List.append_nil] at same
        exact free (same ▸ directory)
    | cons name rest => exact outside ⟨name, rest, equal⟩
  refine ⟨fun _ _ => ⟨rfl, rfl, fun _ _ _ => rfl⟩, fun _ _ => ⟨rfl, rfl, fun _ _ _ => rfl⟩, ?_, ?_⟩
  · intro names file content failure
    refine within_change (fun world tree written => ?_)
    obtain ⟨found, located, free, rfl⟩ := Files.Tree.write_eq_ok written
    exact changed file located free
  · intro names file failure
    refine within_change (fun world tree made => ?_)
    obtain ⟨found, located, vacant, rfl⟩ := Files.Tree.makeDirectory_eq_ok made
    refine changed file located ?_
    rw [vacant]
    exact nofun

/-- A source that touches nothing but what lies below the directory it is given. -/
def Confined (source : Source) : Prop :=
  ∀ version location, IsNamed location →
    Within (Frame.inside location) (source version (Files.Path.ofLocation location))

theorem confined_source (template timeout : Value) : Confined (source template timeout) :=
  fun version _ named => (hosts_inside named).within_source template timeout version

end Archive

end WrapperTypings
