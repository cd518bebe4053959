import WrapperTypings.Proofs.Loading.Agreement

set_option autoImplicit false

namespace WrapperTypings

open Files (IsName Location Tree)

theorem Text.unifyNewlines_cons {c : Char} (other : c ≠ '\r') (rest : List Char) :
    unifyNewlines (c :: rest) = c :: unifyNewlines rest := by
  rw [unifyNewlines]
  · exact fun _ same => absurd same other
  · exact fun same => absurd same other

theorem Json.read_of_slash (rest : List Char) :
    ∃ fault, read (String.ofList ('/' :: rest)) = .error fault := by
  have scalar : ∃ stop, readScalar ('/' :: rest) = .error stop := ⟨_, rfl⟩
  obtain ⟨stop, scalar⟩ := scalar
  have value (fuel : Nat) : readValue (fuel + 1) ('/' :: rest) = .error stop := by
    rw [readValue]
    · exact scalar
    all_goals exact nofun
  have document : readDocument ('/' :: rest) = .error stop := by
    change (readValue (2 * ('/' :: rest).length + 2) ('/' :: rest) >>= _) = _
    rw [value]
    rfl
  unfold read
  rw [String.toList_ofList, document]
  exact ⟨_, rfl⟩

def Unreadable (content : ByteArray) : Prop :=
  ∀ path value, SourceTree.decodeJson path content ≠ .ok value

theorem unreadable_of_slash {text : String} {rest : List Char} (slash : text.toList = '/' :: rest) :
    Unreadable (Text.utf8 text) := by
  intro path value decoded
  have slash : Text.scalars text = '/' :: (Text.pointsOf rest).filterMap Text.Point.char? := by
    unfold Text.scalars Text.points
    rw [slash, Text.pointsOf_cons (by decide)]
    rfl
  obtain ⟨read, decodes, parsed⟩ := Outcome.bind_eq_ok.mp decoded
  have decodes := Outcome.mapError_eq_ok.mp decodes
  unfold Text.readText at decodes
  rw [Text.utf8, Text.decode_toUTF8, Except.map, String.toList_ofList, slash,
    Text.unifyNewlines_cons (by decide)] at decodes
  cases decodes
  obtain ⟨fault, fails⟩ := Json.read_of_slash (Text.unifyNewlines _)
  rw [fails] at parsed
  cases parsed

namespace SourceTree

section
variable {world after : World} {source : Files.Path} {directory : Location} {name : String}
  {content : ByteArray}

private theorem not_mem_descriptors_of_load (plain : source.Plain) {declarations : Declarations}
    {version : String} {workers : Value} {catalog : Catalog}
    (loaded : (load source declarations version workers).result after = .ok catalog)
    (file : IsName name) (clean : Files.unusable? name = none)
    (held : after.tree.get? ((symbolsPath source).location after.here ++ [name]) =
      some (.file content)) (unreadable : Unreadable content) :
    name ∉ after.tree.names ((symbolsPath source).location after.here) := by
  intro listed
  obtain ⟨_, names, constants, wellFormed⟩ := exists_wellFormed_of_load loaded
  have listing := wellFormed.listed
  rw [(observes_descriptorNames source).result_eq] at listing
  obtain ⟨place, located, present, same⟩ :=
    Tree.list_eq_ok_iff.mp (World.View.file_eq_ok_iff.mp listing)
  obtain rfl : place = (symbolsPath source).location after.here :=
    Tree.locate_text (plain_symbolsPath plain) located
  have known : name ∈ names := same ▸ listed
  have described := wellFormed.described name known
  rw [(Run.observes_isFile _).result_eq, (observes_readSymbol _).result_eq] at described
  have tested : after.view.isFile (descriptorPath source name).text ≠ .ok false := by
    intro passedOver
    have answer := (World.View.testPath_eq _ _ _).symm.trans passedOver
    rw [Outcome.mapError_eq_ok] at answer
    change after.tree.test after.here (descriptorPath source name).text _ = _ at answer
    rcases Tree.locate_child (plain_symbolsPath plain) (by simp [symbolsPath]) located present file
      clean with leads | long
    · have status : after.tree.status after.here (descriptorPath source name).text =
          .ok (.file content) := Tree.status_eq_ok_iff.mpr ⟨_, leads, held⟩
      rw [Tree.test_of_ok status] at answer
      cases answer
    · have status : after.tree.status after.here (descriptorPath source name).text =
          .error (.fault .nameTooLong) := Tree.status_of_locate_eq_error long
      rw [Tree.test_of_tooLong status] at answer
      cases answer
  obtain ⟨_, symbol, read⟩ := described.resolve_left tested
  obtain ⟨value, valueRead, _⟩ := Outcome.bind_eq_ok.mp read
  obtain ⟨bytes, bytesHeld, decoded⟩ := Outcome.bind_eq_ok.mp valueRead
  obtain ⟨found, leads, holds⟩ := Tree.status_eq_ok_iff.mp
    (Tree.read_eq_ok_iff.mp (World.View.file_eq_ok_iff.mp bytesHeld))
  have place : found = (descriptorPath source name).location after.here :=
    Tree.locate_text (plain_descriptorPath plain file) leads
  rw [location_descriptorPath source after.here file] at place
  change after.tree.get? found = _ at holds
  rw [place, held] at holds
  cases holds
  exact unreadable _ _ decoded

/-- A catalog that is loaded although such a file has been written was there to be loaded before. -/
theorem load_of_put (plain : source.Plain) (named : world.tree.Named) (here : after.here = world.here)
    (written : after.tree = world.tree.put (directory ++ [name]) (.file content))
    (free : world.tree.get? (directory ++ [name]) ≠ some .directory) (file : IsName name)
    (clean : Files.unusable? name = none) (other : name ≠ "constants.json")
    (unreadable : Unreadable content) {declarations : Declarations} {version : String}
    {workers : Value} {catalog : Catalog}
    (loaded : (load source declarations version workers).result after = .ok catalog) :
    (load source declarations version workers).result world = .ok catalog := by
  have held : after.tree.get? (directory ++ [name]) = some (.file content) := by
    rw [written]
    exact Tree.get?_put_self (by simp)
  have apart : directory ≠ (symbolsPath source).location after.here := by
    intro same
    rw [same] at held written
    apply not_mem_descriptors_of_load plain loaded file clean held unreadable
    rw [written]
    unfold Tree.names Tree.put
    rw [List.filterMap_cons, if_pos List.dropLast_concat, List.getLast?_concat]
    exact List.mem_cons_self
  have listing : after.tree.names ((symbolsPath source).location after.here) =
      world.tree.names ((symbolsPath source).location after.here) := by
    rw [written]
    apply Tree.names_put
    rw [List.dropLast_concat]
    exact apart
  have agree : after.Agree (· ≠ directory ++ [name]) world :=
    ⟨here.symm, written ▸ (Tree.agree_put free content).symm⟩
  refine load_of_agree agree plain ⟨?_, ?_, fun listed member => ?_⟩ listing.symm loaded
  · intro same
    obtain ⟨_, names, constants, wellFormed⟩ := exists_wellFormed_of_load loaded
    have listing := wellFormed.listed
    rw [(observes_descriptorNames source).result_eq] at listing
    obtain ⟨place, located, present, _⟩ :=
      Tree.list_eq_ok_iff.mp (World.View.file_eq_ok_iff.mp listing)
    have reached : place = (symbolsPath source).location after.here :=
      Tree.locate_text (plain_symbolsPath plain) located
    change after.tree.get? place = _ at present
    rw [reached, same, held] at present
    cases present
  · intro same
    rw [location_constantsPath] at same
    have last := congrArg List.getLast? same
    simp only [List.getLast?_append, List.getLast?_singleton] at last
    exact other (Option.some.inj last).symm
  · refine ⟨named.isName (listing ▸ member), fun same => apart ?_⟩
    have above := congrArg List.dropLast same
    rw [List.dropLast_concat, List.dropLast_concat] at above
    exact above.symm

end

end SourceTree

end WrapperTypings
