import Mathlib.Data.List.Nodup
import WrapperTypings.Proofs.Catalog.Grammar
import WrapperTypings.Proofs.Loading.Catalog

set_option autoImplicit false

/-! What is accepted from a file that holds a JSON value. A file of constants has to list entries of
different names, and a descriptor file to hold a descriptor; whatever else they hold, they are
refused as no part of a catalog. -/

namespace WrapperTypings

namespace Descriptor

def nameField : Json → Json
  | .object fields => Json.field "name" fields
  | _ => .null

/-- A list of entries with different names, none of which is that of the constant that every wrapper
has. -/
def IsConstants : Json → Prop
  | .array items => (∀ item ∈ items, IsEntry item) ∧ (items.map nameField).Nodup ∧
      .string "ready" ∉ items.map nameField
  | _ => False

instance : DecidablePred IsConstants
  | .array _ => inferInstanceAs (Decidable (_ ∧ _))
  | .null | .bool _ | .int _ | .float _ | .string _ | .object _ => isFalse id

end Descriptor

open Descriptor

theorem Constant.nameField_of_ofJson {value : Json} {constant : Constant}
    (read : ofJson value = .ok constant) : nameField value = .string constant.name := by
  obtain ⟨fields, rfl, named, _⟩ := ofJson_eq_ok_iff.mp read
  exact named

namespace SourceTree

private theorem map_nameField_of_mapM {items : List Json} {constants : List Constant}
    (read : items.mapM Constant.ofJson = .ok constants) :
    items.map nameField = (constants.map Constant.name).map .string := by
  have each := Outcome.mapM_eq_ok.mp read
  clear read
  induction each with
  | nil => rfl
  | cons here _ ih =>
      rw [List.map_cons, Constant.nameField_of_ofJson here, ih]
      rfl

private theorem nodup_iff_of_mapM {items : List Json} {constants : List Constant}
    (read : items.mapM Constant.ofJson = .ok constants) :
    ((constants ++ [ready]).map Constant.name).Nodup ↔
      (items.map nameField).Nodup ∧ .string "ready" ∉ items.map nameField := by
  have injective : Function.Injective Json.string := fun _ _ => Json.string.inj
  rw [map_nameField_of_mapM read, List.nodup_map_iff injective, List.mem_map_of_injective injective,
    List.map_append, List.nodup_append_comm]
  exact List.nodup_cons.trans and_comm

def sortedConstants (path : String) (value : Json) : Except CatalogFault (List Constant) := do
  let constants ← constantsOf path value
  sortUnique Constant.name .constant (constants ++ [ready])

private theorem exists_sortedConstants_iff {path : String} {value : Json} :
    (∃ sorted, sortedConstants path value = .ok sorted) ↔ IsConstants value := by
  unfold sortedConstants
  simp only [Outcome.bind_eq_ok, sortUnique_eq_ok_iff]
  cases value with
  | array items =>
      simp only [constantsOf, Outcome.mapError_eq_ok]
      constructor
      · rintro ⟨sorted, constants, read, distinct, _⟩
        have entries : ∀ item ∈ items, IsEntry item := by
          simp only [← Constant.exists_ofJson_iff]
          exact Outcome.exists_mapM_eq_ok_iff.mp ⟨constants, read⟩
        exact ⟨entries, (nodup_iff_of_mapM read).mp distinct⟩
      · rintro ⟨entries, distinct⟩
        simp only [← Constant.exists_ofJson_iff] at entries
        obtain ⟨constants, read⟩ := Outcome.exists_mapM_eq_ok_iff.mpr entries
        exact ⟨_, constants, read, (nodup_iff_of_mapM read).mpr distinct, rfl⟩
  | _ => simp [constantsOf, IsConstants]

section
variable {world : World} {source path : Files.Path} {value : Json}

private theorem readSymbol_of_readJson (held : (readJson path.text).result world = .ok value) :
    (readSymbol path).result world =
      (Symbol.ofJson value).mapError (fun fault => .catalog (.symbol path.text fault)) := by
  rw [(observes_readJson _).result_eq] at held
  rw [(observes_readSymbol _).result_eq]
  unfold World.View.readSymbol
  rw [held]
  rfl

private theorem loadConstants_of_readJson
    (held : (readJson (constantsPath source).text).result world = .ok value) :
    (loadConstants source).result world =
      (sortedConstants (constantsPath source).text value).mapError .catalog := by
  rw [(observes_readJson _).result_eq] at held
  rw [(observes_loadConstants _).result_eq]
  unfold World.View.loadConstants sortedConstants
  rw [held, Outcome.mapError_bind]
  rfl

end

/-- A JSON value is read as a symbol exactly when it is a descriptor, and as constants exactly when it
lists entries of different names that leave the name of the additional constant free. Any other value
is refused with a fault of the catalog, also when it comes from a file. -/
theorem accepts_iff_grammar :
    (∀ value, ((∃ symbol, Symbol.ofJson value = .ok symbol) ↔ IsSymbol value) ∧
      (¬ IsSymbol value → ∃ fault : Descriptor.Fault, Symbol.ofJson value = .error fault)) ∧
    (∀ world path value, (readJson path.text).result world = .ok value →
      ((∃ symbol, (readSymbol path).result world = .ok symbol) ↔ IsSymbol value) ∧
      (¬ IsSymbol value →
        ∃ fault, (readSymbol path).result world = .error (.catalog (.symbol path.text fault)))) ∧
    ∀ world source value,
      (readJson (constantsPath source).text).result world = .ok value →
      ((∃ constants, (loadConstants source).result world = .ok constants) ↔ IsConstants value) ∧
      (¬ IsConstants value →
        ∃ fault, (loadConstants source).result world = .error (.catalog fault)) := by
  have refused (value : Json) (other : ¬ IsSymbol value) :
      ∃ fault, Symbol.ofJson value = .error fault :=
    Outcome.exists_eq_error (mt Symbol.exists_ofJson_iff.mp other)
  refine ⟨fun value => ⟨Symbol.exists_ofJson_iff, refused value⟩, ?_, ?_⟩
  · intro world path value held
    rw [readSymbol_of_readJson held]
    simp only [Outcome.mapError_eq_ok]
    refine ⟨Symbol.exists_ofJson_iff, fun other => ?_⟩
    obtain ⟨fault, failed⟩ := refused value other
    exact ⟨fault, Outcome.mapError_eq_error.mpr ⟨fault, failed, rfl⟩⟩
  · intro world source value held
    rw [loadConstants_of_readJson held]
    simp only [Outcome.mapError_eq_ok]
    refine ⟨exists_sortedConstants_iff, fun other => ?_⟩
    obtain ⟨fault, failed⟩ :=
      Outcome.exists_eq_error (mt exists_sortedConstants_iff.mp other)
    exact ⟨fault, Outcome.mapError_eq_error.mpr ⟨fault, failed, rfl⟩⟩

def refusedWorld : World :=
  { sampleWorld with
    tree := ⟨[
      (["src"], .directory),
      (["src", "wrapper"], .directory),
      (["src", "wrapper", "symbols"], .directory),
      (["src", "wrapper", "symbols", "pad.json"],
        .file "\x7b\"name\": \"pad\", \"inputs\": false\x7d".toUTF8),
      (["src", "wrapper", "constants.json"],
        .file "[\x7b\"name\": \"ready\", \"type\": \"uint\"\x7d]".toUTF8)]⟩ }

theorem accepts_iff_grammar_samples :
    (∃ symbol, (readSymbol (descriptorPath sampleSource "a.json")).result sampleWorld =
      .ok symbol) ∧
    (∃ constants, (loadConstants sampleSource).result sampleWorld = .ok constants) ∧
    (∃ fault, (readSymbol (descriptorPath sampleSource "pad.json")).result refusedWorld =
      .error (.catalog fault)) ∧
    ∃ fault, (loadConstants sampleSource).result refusedWorld = .error (.catalog fault) := by
  obtain ⟨_, symbols, constants⟩ := accepts_iff_grammar
  have descriptor : IsSymbol (.object [("name", .string "unpad")]) :=
    ⟨by decide, .inl rfl, trivial, trivial, trivial, trivial, .inl rfl⟩
  have flagged : ¬ IsSymbol (.object [("name", .string "pad"), ("inputs", .bool false)]) :=
    fun describes => describes.inputs
  refine ⟨?_, ?_, ?_, ?_⟩
  · exact (symbols sampleWorld (descriptorPath sampleSource "a.json") _
      (by decide +kernel)).1.mpr descriptor
  · exact (constants sampleWorld sampleSource
      (.array [.object [("name", .string "SALTBYTES"), ("type", .string "uint")]])
      (by decide +kernel)).1.mpr (by decide)
  · obtain ⟨fault, failed⟩ := (symbols refusedWorld
      (descriptorPath sampleSource "pad.json") _ (by decide +kernel)).2 flagged
    exact ⟨_, failed⟩
  · exact (constants refusedWorld sampleSource
      (.array [.object [("name", .string "ready"), ("type", .string "uint")]])
      (by decide +kernel)).2 (by decide)

end SourceTree

end WrapperTypings
