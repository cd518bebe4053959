import WrapperTypings.Proofs.Version.Configured

set_option autoImplicit false

/-! The settings that a file gives. They are the usual ones, each overridden by the last entry of its
name, and there are settings at all only for entries of known names and for versions that keep to the
floors. Other content fails with words, except for faults of the document that have none and for keys
that are no text. -/

namespace WrapperTypings.Configuration

def setting (configuration : Configuration) (name : String) : Value :=
  if name = "default_version" then .string configuration.defaultVersion
  else if name = "minimum_version" then .string configuration.minimumVersion
  else if name = "archive_url_template" then configuration.archiveTemplate
  else if name = "module_base" then configuration.moduleBase
  else if name = "project_url" then configuration.projectUrl
  else if name = "definitions_by" then configuration.definitionsBy
  else if name = "max_workers" then configuration.maxWorkers
  else if name = "download_timeout" then configuration.downloadTimeout
  else .null

def takenAs (name : String) (value : Value) : Value :=
  if name = "default_version" ∨ name = "minimum_version" then .string value.display else value

private theorem setting_set {name : String} (known : name ∈ names) (configuration : Configuration)
    (value : Value) (other : String) :
    (configuration.set name value).setting other =
      if other = name then takenAs name value else configuration.setting other := by
  simp only [names, List.mem_cons, List.not_mem_nil, or_false] at known
  by_cases same : other = name
  · rw [if_pos same, same]
    rcases known with rfl | rfl | rfl | rfl | rfl | rfl | rfl | rfl <;> rfl
  · rw [if_neg same]
    rcases known with rfl | rfl | rfl | rfl | rfl | rfl | rfl | rfl
    all_goals simp only [set, setting, reduceIte, String.reduceEq, if_neg same]

private theorem eq_of_setting_eq {first second : Configuration}
    (same : ∀ name ∈ names, first.setting name = second.setting name) : first = second := by
  simp only [names, List.forall_mem_cons, setting, reduceIte, String.reduceEq, Value.string.injEq]
    at same
  obtain ⟨default, minimum, template, base, url, authors, workers, timeout, _⟩ := same
  cases first
  cases second
  simp_all

def lastOf? (name : String) (entries : List (Value × Value)) : Option Value :=
  (entries.reverse.find? (fun entry => keyText? entry.1 = some name)).map Prod.snd

private theorem lastOf?_concat (name : String) (entries : List (Value × Value))
    (entry : Value × Value) :
    lastOf? name (entries ++ [entry]) =
      if keyText? entry.1 = some name then some entry.2 else lastOf? name entries := by
  unfold lastOf?
  rw [List.reverse_concat, List.find?_cons]
  by_cases named : keyText? entry.1 = some name <;> simp [named]

/-- The entries have names of settings, and the settings are the usual ones overridden by them. -/
structure Overrides (entries : List (Value × Value)) (configuration : Configuration) : Prop where
  known : ∀ entry ∈ entries, ∃ name ∈ names, entry.1 = .string name
  /-- The last entry of a name counts; a setting without an entry is the usual one. -/
  settings : ∀ name ∈ names, configuration.setting name =
    ((lastOf? name entries).map (takenAs name)).getD (usual.setting name)
  floored : Floored configuration

def overridden (entries : List (Value × Value)) : Configuration :=
  entries.foldl
    (fun configuration entry => configuration.set ((keyText? entry.1).getD "") entry.2) usual

private theorem setting_overridden {entries : List (Value × Value)}
    (known : ∀ entry ∈ entries, ∃ name ∈ names, entry.1 = .string name) (name : String) :
    (overridden entries).setting name =
      ((lastOf? name entries).map (takenAs name)).getD (usual.setting name) := by
  induction entries using List.reverseRecOn with
  | nil => rfl
  | append_singleton before entry ih =>
      obtain ⟨earlier, here⟩ := List.forall_mem_append.mp known
      obtain ⟨key, listed, written⟩ := here entry (List.mem_singleton.mpr rfl)
      have text : keyText? entry.1 = some key := written ▸ rfl
      have last : overridden (before ++ [entry]) = (overridden before).set key entry.2 := by
        unfold overridden
        rw [List.foldl_concat, text]
        rfl
      rw [last, setting_set listed, lastOf?_concat, text]
      by_cases same : name = key
      · rw [if_pos same, if_pos (congrArg some same.symm), same]
        rfl
      · rw [if_neg same, if_neg (fun equal => same (Option.some.inj equal).symm), ih earlier]

theorem Overrides.eq_overridden {entries : List (Value × Value)} {configuration : Configuration}
    (overrides : Overrides entries configuration) : configuration = overridden entries :=
  eq_of_setting_eq (fun name listed =>
    (overrides.settings name listed).trans (setting_overridden overrides.known name).symm)

private theorem mapM_keyText?_eq_some {keys : List Value} {texts : List String} :
    keys.mapM keyText? = some texts ↔ keys = texts.map Value.string := by
  constructor
  · intro read
    induction keys generalizing texts with
    | nil =>
        cases read
        rfl
    | cons key rest ih =>
        rw [List.mapM_cons] at read
        obtain ⟨name, text, read⟩ := Option.bind_eq_some_iff.mp read
        obtain ⟨others, later, same⟩ := Option.bind_eq_some_iff.mp read
        cases same
        cases key with
        | string written =>
            cases text
            rw [ih later]
            rfl
        | _ => cases text
  · rintro rfl
    induction texts with
    | nil => rfl
    | cons name rest ih =>
        rw [List.map_cons, List.mapM_cons, ih]
        rfl

private theorem mapM_keyText?_eq_none {keys : List Value} :
    keys.mapM keyText? = none ↔ ∃ key ∈ keys, keyText? key = none := by
  constructor
  · intro read
    induction keys with
    | nil => cases read
    | cons key rest ih =>
        rw [List.mapM_cons] at read
        cases text : keyText? key with
        | none => exact ⟨key, List.mem_cons_self, text⟩
        | some name =>
            rw [text] at read
            cases later : rest.mapM keyText? with
            | none =>
                obtain ⟨other, among, missing⟩ := ih later
                exact ⟨other, List.mem_cons_of_mem key among, missing⟩
            | some others =>
                rw [later] at read
                cases read
  · rintro ⟨key, among, missing⟩
    cases read : keys.mapM keyText? with
    | none => rfl
    | some texts =>
        obtain rfl := mapM_keyText?_eq_some.mp read
        obtain ⟨name, _, rfl⟩ := List.mem_map.mp among
        cases missing

theorem checkKeys_eq_ok {keys : List Value} :
    checkKeys keys = .ok () ↔ ∀ key ∈ keys, ∃ name ∈ names, key = .string name := by
  unfold checkKeys
  cases read : keys.mapM keyText? with
  | none =>
      obtain ⟨key, among, missing⟩ := mapM_keyText?_eq_none.mp read
      refine ⟨nofun, fun known => ?_⟩
      obtain ⟨name, _, rfl⟩ := known key among
      cases missing
  | some texts =>
      obtain rfl := mapM_keyText?_eq_some.mp read
      have unknown : (texts.filter (fun name => !names.contains name)).isEmpty = true ↔
          ∀ name ∈ texts, name ∈ names := by
        simp [List.isEmpty_iff, List.filter_eq_nil_iff]
      dsimp only
      constructor
      · intro checked key member
        obtain ⟨name, among, rfl⟩ := List.mem_map.mp member
        split at checked
        · rename_i allKnown
          exact ⟨name, unknown.mp allKnown name among, rfl⟩
        · cases checked
      · intro known
        refine if_pos (unknown.mpr (fun name among => ?_))
        obtain ⟨other, listed, same⟩ := known _ (List.mem_map_of_mem among)
        cases same
        exact listed

private theorem checkKeys_eq_error {keys : List Value} {fault : ConfigurationFault}
    (refused : checkKeys keys = .error fault) :
    (∃ unknown, fault = .unknownKeys unknown) ∨
      fault = .noKeys ∧ ∃ key ∈ keys, keyText? key = none := by
  unfold checkKeys at refused
  split at refused
  · rename_i missing
    cases refused
    exact .inr ⟨rfl, mapM_keyText?_eq_none.mp missing⟩
  · dsimp only at refused
    split at refused
    · cases refused
    · cases refused
      exact .inl ⟨_, rfl⟩

private theorem checkKeys_of_noText {keys : List Value}
    (missing : ∃ key ∈ keys, keyText? key = none) :
    checkKeys keys = .error .noKeys := by
  unfold checkKeys
  rw [mapM_keyText?_eq_none.mpr missing]

theorem ofValue_map (entries : List (Value × Value)) :
    ofValue (.map entries) =
      ((checkKeys (entries.map Prod.fst)).mapError Failure.configuration >>= fun _ =>
        check (overridden entries)) := rfl

theorem check_of_floored {configuration : Configuration} (floored : Floored configuration) :
    check configuration = .ok configuration := by
  unfold check
  rw [Version.checkMinimum_eq_ok.mpr ⟨rfl, floored.lowest⟩,
    Version.checkMinimum_eq_ok.mpr ⟨rfl, floored.minimum⟩]
  rfl

private theorem ofValue_map_eq_ok {entries : List (Value × Value)} {configuration : Configuration} :
    ofValue (.map entries) = .ok configuration ↔ Overrides entries configuration := by
  rw [ofValue_map, Outcome.bind_eq_ok]
  constructor
  · rintro ⟨_, checked, accepted⟩
    have known := List.forall_mem_map.mp (checkKeys_eq_ok.mp (Outcome.mapError_eq_ok.mp checked))
    obtain ⟨rfl, floored⟩ := floored_of_check accepted
    exact ⟨known, fun name _ => setting_overridden known name, floored⟩
  · intro overrides
    have checked := checkKeys_eq_ok.mpr (List.forall_mem_map.mpr overrides.known)
    refine ⟨(), Outcome.mapError_eq_ok.mpr checked, ?_⟩
    rw [← overrides.eq_overridden]
    exact check_of_floored overrides.floored

private theorem check_eq_error {configuration : Configuration} {failure : Failure}
    (refused : check configuration = .error failure) : ∃ fault, failure = .version fault := by
  rcases Outcome.bind_eq_error.mp refused with lowest | ⟨_, _, refused⟩
  · obtain ⟨fault, _, rfl⟩ := Outcome.mapError_eq_error.mp lowest
    exact ⟨fault, rfl⟩
  · rcases Outcome.bind_eq_error.mp refused with minimum | ⟨_, _, impossible⟩
    · obtain ⟨fault, _, rfl⟩ := Outcome.mapError_eq_error.mp minimum
      exact ⟨fault, rfl⟩
    · cases impossible

section
variable (conditions : Yaml.Conditions) (content : ByteArray)

/-- The configurations that a content gives. -/
inductive Gives : Configuration → Prop
  | empty (read : Yaml.read conditions content = .ok .null) : Gives usual
  | entries {entries : List (Value × Value)} {configuration : Configuration}
      (read : Yaml.read conditions content = .ok (.map entries))
      (overrides : Overrides entries configuration) : Gives configuration

/-- The failures that escape: a document has a fault without words, or a key is no text. -/
inductive Escapes : Failure → Prop
  | malformed {fault : Yaml.Fault} (refused : Yaml.read conditions content = .error fault)
      (wordless : fault.message? = none) : Escapes (.yaml fault)
  | keys {entries : List (Value × Value)} (read : Yaml.read conditions content = .ok (.map entries))
      (missing : ∃ entry ∈ entries, keyText? entry.1 = none) : Escapes (.configuration .noKeys)

end

/-- The failures that reading a file of settings is documented to have: a version is refused, the
document is no mapping or has unknown keys, or its bytes or a value in it cannot be read. -/
inductive Documented (path : String) : Failure → Prop
  | version (fault : Version.Fault) : Documented path (.version fault)
  | notAMapping : Documented path (.configuration (.notAMapping path))
  | unknownKeys (unknown : List String) : Documented path (.configuration (.unknownKeys unknown))
  | unread {fault : Yaml.Fault} (worded : fault.message? ≠ none) : Documented path (.yaml fault)

theorem Documented.report?_isSome {path : String} {failure : Failure}
    (documented : Documented path failure) : failure.report?.isSome = true := by
  cases documented with
  | unread worded => exact Option.isSome_iff_ne_none.mpr worded
  | _ => rfl

section
variable {conditions : Yaml.Conditions} {path : String} {content : ByteArray}

theorem Escapes.report?_eq_none {failure : Failure}
    (escapes : Escapes conditions content failure) : failure.report? = none := by
  cases escapes with
  | malformed _ wordless => exact wordless
  | keys => rfl

theorem ofContent_eq_ok {configuration : Configuration} :
    ofContent conditions path content = .ok configuration ↔
      Gives conditions content configuration := by
  constructor
  · intro read
    obtain ⟨value, parsed, read⟩ := Outcome.bind_eq_ok.mp read
    rw [Outcome.mapError_eq_ok] at parsed
    split at read
    · cases read
      exact .empty parsed
    · exact .entries parsed (ofValue_map_eq_ok.mp read)
    · cases read
  · intro gives
    cases gives with
    | empty read =>
        exact Outcome.bind_eq_ok.mpr ⟨.null, Outcome.mapError_eq_ok.mpr read, rfl⟩
    | @entries entries _ read overrides =>
        refine Outcome.bind_eq_ok.mpr ⟨.map entries, Outcome.mapError_eq_ok.mpr read, ?_⟩
        exact ofValue_map_eq_ok.mpr overrides

theorem documented_or_escapes {failure : Failure}
    (failed : ofContent conditions path content = .error failure) :
    Documented path failure ∨ Escapes conditions content failure := by
  rcases Outcome.bind_eq_error.mp failed with refused | ⟨value, read, failed⟩
  · obtain ⟨fault, unread, rfl⟩ := Outcome.mapError_eq_error.mp refused
    by_cases wordless : fault.message? = none
    · exact .inr (.malformed unread wordless)
    · exact .inl (.unread wordless)
  rw [Outcome.mapError_eq_ok] at read
  split at failed
  · cases failed
  · rename_i entries
    rw [ofValue_map] at failed
    rcases Outcome.bind_eq_error.mp failed with refused | ⟨_, _, refused⟩
    · obtain ⟨fault, unfit, rfl⟩ := Outcome.mapError_eq_error.mp refused
      rcases checkKeys_eq_error unfit with ⟨unknown, rfl⟩ | ⟨rfl, key, among, missing⟩
      · exact .inl (.unknownKeys unknown)
      · obtain ⟨entry, member, rfl⟩ := List.mem_map.mp among
        exact .inr (.keys read ⟨entry, member, missing⟩)
    · obtain ⟨fault, rfl⟩ := check_eq_error refused
      exact .inl (.version fault)
  · cases failed
    exact .inl .notAMapping

theorem ofContent_of_escapes {failure : Failure} (escapes : Escapes conditions content failure) :
    ofContent conditions path content = .error failure := by
  cases escapes with
  | malformed refused _ =>
      exact Outcome.bind_eq_error.mpr (.inl (Outcome.mapError_eq_error.mpr ⟨_, refused, rfl⟩))
  | @keys entries read missing =>
      obtain ⟨entry, among, missing⟩ := missing
      have lost := checkKeys_of_noText ⟨entry.1, List.mem_map_of_mem (f := Prod.fst) among, missing⟩
      refine Outcome.bind_eq_error.mpr (.inr ⟨.map entries, Outcome.mapError_eq_ok.mpr read, ?_⟩)
      change ofValue (.map entries) = _
      rw [ofValue_map, lost]
      rfl

end

theorem run_load {world : World} {path : String} {content : ByteArray}
    (held : world.tree.read world.here path = .ok content) :
    (load path).run world = (ofContent world.yaml path content, world) := by
  have read : world.view.file path Failure.file Files.Tree.read = .ok content :=
    World.View.file_eq_ok_iff.mpr held
  unfold load Run.readFile
  rw [Run.run_bind, Run.run_file, read]
  dsimp only
  rw [Run.run_get_bind]
  exact Run.run_lift_id _ world

end WrapperTypings.Configuration
