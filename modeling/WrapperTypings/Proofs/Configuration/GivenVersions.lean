import WrapperTypings.Proofs.Configuration.Settings
import WrapperTypings.Proofs.Version.Numbers
import WrapperTypings.Proofs.Yaml.Entries
import WrapperTypings.Proofs.Yaml.Numerals

set_option autoImplicit false

/-! Versions that a file of settings gives as plain text. Three or more runs of digits are taken as
they stand. Fewer are read as a number first and the text of the number is taken, which is the same
version unless a run in base eight or a zero at the end was lost. -/

namespace WrapperTypings.Configuration

open Binary64 (digitsValue)
open Text (IsDotted IsRun)
open Version (AtLeast dotted)
open Yaml (linesText)

def versionNames : List (List String) :=
  [["default_version"], ["minimum_version", "default_version"], ["default_version", "minimum_version"]]

def versionContent (names : List String) (version : String) : ByteArray :=
  (linesText (names.map (fun name => (name, version)))).toUTF8

def given (names : List String) (version : String) : Configuration :=
  { usual with
    defaultVersion := version
    minimumVersion := if "minimum_version" ∈ names then version else lowestVersion }

/-- The names are words that mean nothing else in a document. -/
theorem plain_versionNames : ∀ names ∈ versionNames, ∀ name ∈ names, Yaml.IsWord name.toList ∧
    name.toList.length ≤ Yaml.Lexer.keyReach ∧ Yaml.Tag.ofPlain name = .string := by
  decide +kernel

section
variable {names : List String} {text : List Char} {version : String}

private theorem isWord_of_dotted (dotted : IsDotted text) : Yaml.IsWord text := by
  obtain ⟨c, rest, shape, digit⟩ := dotted.begins
  refine ⟨⟨c, rest, shape, ?_⟩, fun c member => ?_⟩
  · rw [Char.isAlphanum, digit, Bool.or_true]
  · rcases dotted.chars c member with digit | rfl
    · rw [Yaml.isWordChar, Char.isAlphanum, digit, Bool.or_true]
      rfl
    · rfl

private theorem isLine_of_listed (listed : names ∈ versionNames)
    (isWord : Yaml.IsWord version.toList) :
    ∀ entry ∈ names.map (fun name => (name, version)), Yaml.IsLine entry := by
  refine List.forall_mem_map.mpr (fun name among => ?_)
  obtain ⟨isName, short, _⟩ := plain_versionNames names listed name among
  exact ⟨isName, short, isWord⟩

private theorem read_versionContent (listed : names ∈ versionNames)
    (isWord : Yaml.IsWord version.toList)
    {value : Value} (read : Yaml.scalarValue (Yaml.Tag.ofPlain version) version = .ok value)
    (conditions : Yaml.Conditions) :
    Yaml.read conditions (versionContent names version) =
      .ok (Yaml.mapOf (names.map (fun name => (.string name, value)))) := by
  have lines := isLine_of_listed listed isWord
  cases names with
  | nil => exact absurd listed (by decide)
  | cons first others =>
      have strings : ∀ entry ∈ (first :: others).map (fun name => (name, version)),
          Yaml.Tag.ofPlain entry.1 = .string :=
        List.forall_mem_map.mpr (fun name among => (plain_versionNames _ listed name among).2.2)
      have values : ∀ entry ∈ (first :: others).map (fun name => (name, version)),
          Yaml.scalarValue (Yaml.Tag.ofPlain entry.2) entry.2 = .ok value :=
        List.forall_mem_map.mpr (fun _ _ => read)
      have found := Yaml.read_lines conditions lines strings (fun _ => value) values
      rw [← List.map_cons (f := fun name => (name, version)), List.map_map] at found
      exact found

private theorem mapOf_version (listed : names ∈ versionNames) (value : Value) :
    Yaml.mapOf (names.map (fun name => (.string name, value))) =
      .map (names.map (fun name => (.string name, value))) := by
  simp only [versionNames, List.mem_cons, List.not_mem_nil, or_false] at listed
  rcases listed with rfl | rfl | rfl
  all_goals simp [Yaml.mapOf, Value.putEntry, Value.sameKey, Value.numeral?]

private theorem overridden_version (listed : names ∈ versionNames) (value : Value) :
    overridden (names.map (fun name => (.string name, value))) = given names value.display := by
  simp only [versionNames, List.mem_cons, List.not_mem_nil, or_false] at listed
  rcases listed with rfl | rfl | rfl
  all_goals simp [overridden, keyText?, set, given, usual]

private theorem ofValue_version (listed : names ∈ versionNames) (value : Value) :
    ofValue (Yaml.mapOf (names.map (fun name => (.string name, value)))) =
      check (given names value.display) := by
  have known : ∀ names ∈ versionNames, ∀ name ∈ names, name ∈ Configuration.names := by decide +kernel
  have checked : checkKeys ((names.map (fun name => (Value.string name, value))).map Prod.fst) = .ok () := by
    rw [List.map_map]
    exact checkKeys_eq_ok.mpr (List.forall_mem_map.mpr
      (fun name among => ⟨name, known names listed name among, rfl⟩))
  rw [mapOf_version listed, ofValue_map, checked, overridden_version listed]
  rfl

private theorem ofContent_versionContent (listed : names ∈ versionNames)
    (isWord : Yaml.IsWord version.toList)
    {value : Value} (read : Yaml.scalarValue (Yaml.Tag.ofPlain version) version = .ok value)
    (conditions : Yaml.Conditions) (path : String) :
    ofContent conditions path (versionContent names version) =
      check (given names value.display) := by
  unfold ofContent
  rw [read_versionContent listed isWord read]
  exact ofValue_version listed value

end

open Yaml (isOctal runsValue valueIn)

private theorem valueIn_eight {digits : List Char} (each : ∀ c ∈ digits, c.isDigit = true) :
    valueIn 8 digits ≤ digitsValue digits ∧
      (valueIn 8 digits = digitsValue digits ↔ digitsValue digits < 10) := by
  induction digits using List.reverseRecOn with
  | nil => decide
  | append_singleton before c ih =>
      obtain ⟨earlier, last⟩ := List.forall_mem_append.mp each
      obtain ⟨_, high⟩ := Text.digit_bounds (last c (List.mem_singleton.mpr rfl))
      obtain ⟨below, same⟩ := ih earlier
      have step : valueIn 8 (before ++ [c]) = 8 * valueIn 8 before + (c.toNat - 48) := by
        rw [valueIn, List.foldl_concat]
        rfl
      rw [step, Binary64.digitsValue_concat]
      constructor
      · omega
      · constructor <;> omega

private theorem written_number {value : Nat}
    (short : (Nat.toDigits 10 value).length ≤ Version.componentDigitLimit) :
    Version.Written (dotted [Nat.toDigits 10 value]) [Nat.toDigits 10 value] :=
  Version.written_dotted (List.cons_ne_nil _ _)
    (List.forall_mem_singleton.mpr (Version.isRun_toDigits value)) (List.forall_mem_singleton.mpr short)

private theorem toString_eq_dotted (value : Nat) :
    toString (value : Int) = dotted [Nat.toDigits 10 value] := by
  rw [dotted, List.intercalate_singleton]
  exact Nat.toString_eq_ofList_toDigits

private theorem compareVersions_eq_iff {version other : String} {runs others : List (List Char)}
    (written : Version.Written version runs) (written' : Version.Written other others) :
    Version.compareVersions version other = .ok .eq ↔
      Version.canonical (runs.map digitsValue) = Version.canonical (others.map digitsValue) := by
  rw [← Version.compareComponents_eq_iff]
  unfold Version.compareVersions
  rw [written.components, written'.components]
  exact ⟨Except.ok.inj, congrArg Except.ok⟩

private theorem canonical_single_iff {first second : Nat} :
    Version.canonical [first] = Version.canonical [second] ↔ first = second := by
  rw [Version.canonical_eq_iff]
  exact and_iff_left rfl

private theorem canonical_pair_iff {first second third fourth : Nat} :
    Version.canonical [first, second] = Version.canonical [third, fourth] ↔
      first = third ∧ second = fourth := by
  rw [Version.canonical_eq_iff]
  exact and_congr_right (fun _ => canonical_single_iff)

section
variable {digits whole fraction : List Char}

private theorem display_decimal (run : IsRun digits) (noZero : digits.head? ≠ some '0') :
    (runsValue [digits]).display = dotted [digits] := by
  obtain ⟨c, rest, rfl, digit⟩ := run.begins
  have other : c ≠ '0' := fun zero => noZero (zero ▸ rfl)
  have nonzero : 0 < digitsValue (c :: rest) := Binary64.digitsValue_cons_pos digit other rest
  have written := Binary64.toDigits_digitsValue run.each nonzero
  rw [List.dropWhile_cons_of_neg (by simpa using other)] at written
  rw [runsValue, if_neg noZero]
  refine (toString_eq_dotted _).trans ?_
  exact congrArg (fun run => dotted [run]) written

private theorem display_run (run : IsRun digits) : (runsValue [digits]).display =
    if isOctal digits then dotted [Nat.toDigits 10 (valueIn 8 digits)] else dotted [digits] := by
  by_cases zero : digits.head? = some '0'
  · rw [runsValue, if_pos zero]
    cases isOctal digits with
    | false => exact congrArg String.ofList List.intercalate_singleton.symm
    | true => exact toString_eq_dotted _
  · have noOctal : isOctal digits = false := by
      rw [isOctal, Bool.and_eq_false_iff]
      exact .inl (beq_eq_false_iff_ne.mpr zero)
    rw [noOctal, if_neg Bool.false_ne_true]
    exact display_decimal run zero

end

/-- Versions of which something is lost when they are read as a number: several digits in base eight,
or a zero at the end of a second run that is not zero. -/
inductive Loses : List (List Char) → Prop
  | octal {digits : List Char} (eight : isOctal digits = true) (several : 10 ≤ digitsValue digits) :
      Loses [digits]
  | zeros {whole fraction : List Char} (nonzero : digitsValue fraction ≠ 0)
      (tens : digitsValue fraction % 10 = 0) : Loses [whole, fraction]

section
variable {digits whole fraction : List Char} {runs : List (List Char)}

private theorem length_valueIn_eight (run : IsRun digits) :
    (Nat.toDigits 10 (valueIn 8 digits)).length ≤ digits.length :=
  (Nat.length_toDigits_le_iff (by decide) (List.length_pos_of_ne_nil run.filled)).mpr
    (Nat.lt_of_le_of_lt (valueIn_eight run.each).1 (Version.digitsValue_lt digits run.each))

private theorem equal_run (run : IsRun digits)
    (written : Version.Written (dotted [digits]) [digits]) :
    Version.compareVersions (runsValue [digits]).display (dotted [digits]) = .ok .eq ↔
      ¬ Loses [digits] := by
  rw [display_run run]
  cases eight : isOctal digits with
  | false =>
      rw [if_neg Bool.false_ne_true, compareVersions_eq_iff written written]
      refine iff_of_true rfl (fun loses => ?_)
      cases loses with
      | octal octal _ =>
          rw [eight] at octal
          cases octal
  | true =>
      have short := (length_valueIn_eight run).trans (written.short digits List.mem_cons_self)
      rw [if_pos rfl, compareVersions_eq_iff (written_number short) written]
      simp only [List.map_cons, List.map_nil, Text.digitsValue_toDigits]
      rw [canonical_single_iff, (valueIn_eight run.each).2]
      constructor
      · intro small loses
        cases loses with
        | octal _ several => omega
      · intro kept
        by_contra several
        exact kept (.octal eight (by omega))

private theorem lost_pair (loses : Loses [whole, fraction])
    (written : Version.Written (dotted [whole, fraction]) [whole, fraction]) :
    Version.compareVersions (runsValue [whole, fraction]).display (dotted [whole, fraction]) ≠ .ok .eq := by
  intro equal
  obtain ⟨left, right, read, other, same⟩ := Version.compareVersions_eq_ok.mp equal
  obtain ⟨first, second, rfl, tens⟩ := Version.components_text read
  rw [written.components] at other
  cases other
  rw [Version.compareComponents_eq_iff] at same
  obtain ⟨_, same⟩ := canonical_pair_iff.mp same
  cases loses with
  | zeros nonzero multiple => exact nonzero (same ▸ tens (same ▸ multiple))

private theorem display_pair (precise : Binary64.Precise whole fraction) (run : IsRun whole)
    (behind : IsRun fraction) : (runsValue [whole, fraction]).display =
      dotted [Nat.toDigits 10 (digitsValue whole),
        Binary64.fractionText (fraction.rdropWhile (· = '0'))] := by
  refine (precise.text (List.forall_mem_append.mpr ⟨run.each, behind.each⟩)).trans ?_
  rw [dotted, List.intercalate_cons_cons, List.intercalate_singleton, List.append_assoc]
  rfl

private theorem digitsValue_fractionText {fraction : List Char}
    (kept : digitsValue fraction % 10 = 0 → digitsValue fraction = 0) :
    digitsValue (Binary64.fractionText (fraction.rdropWhile (· = '0'))) = digitsValue fraction := by
  have text (digits : List Char) : digitsValue (Binary64.fractionText digits) = digitsValue digits := by
    cases digits <;> rfl
  obtain ⟨zeros, shape⟩ := Binary64.exists_zeros fraction
  rw [text]
  generalize fraction.rdropWhile (· = '0') = digits at shape ⊢
  rw [shape, Binary64.digitsValue_append_zeros] at kept ⊢
  cases zeros with
  | zero => rw [pow_zero, mul_one]
  | succ zeros =>
      have nothing := kept (by rw [pow_succ, ← mul_assoc, Nat.mul_mod_left])
      have zero : digitsValue digits = 0 :=
        (Nat.mul_eq_zero.mp nothing).resolve_right (Nat.pow_pos (by decide)).ne'
      rw [zero, zero_mul]

private theorem written_display (run : IsRun whole) (behind : IsRun fraction)
    (written : Version.Written (dotted [whole, fraction]) [whole, fraction]) :
    Version.Written (dotted [Nat.toDigits 10 (digitsValue whole),
        Binary64.fractionText (fraction.rdropWhile (· = '0'))])
      [Nat.toDigits 10 (digitsValue whole), Binary64.fractionText (fraction.rdropWhile (· = '0'))] := by
  obtain ⟨shortWhole, shortFraction⟩ := List.forall_mem_cons.mp written.short
  have length : (Nat.toDigits 10 (digitsValue whole)).length ≤ whole.length :=
    (Nat.length_toDigits_le_iff (by decide) (List.length_pos_of_ne_nil run.filled)).mpr
      (Version.digitsValue_lt whole run.each)
  have kept := List.rdropWhile_prefix (· = '0') fraction
  have isRun : IsRun (Binary64.fractionText (fraction.rdropWhile (· = '0'))) ∧
      (Binary64.fractionText (fraction.rdropWhile (· = '0'))).length ≤ fraction.length := by
    unfold Binary64.fractionText
    split
    · exact ⟨by decide, List.length_pos_of_ne_nil behind.filled⟩
    · rename_i more
      exact ⟨⟨by simpa using more, fun c member => behind.each c (kept.subset member)⟩, kept.length_le⟩
  refine Version.written_dotted (List.cons_ne_nil _ _) ?_ ?_
  · exact List.forall_mem_cons.mpr ⟨Version.isRun_toDigits _, List.forall_mem_singleton.mpr isRun.1⟩
  · exact List.forall_mem_cons.mpr ⟨length.trans shortWhole,
      List.forall_mem_singleton.mpr (isRun.2.trans (shortFraction fraction List.mem_cons_self))⟩

private theorem equal_pair (precise : Binary64.Precise whole fraction) (run : IsRun whole)
    (behind : IsRun fraction) (written : Version.Written (dotted [whole, fraction]) [whole, fraction]) :
    Version.compareVersions (runsValue [whole, fraction]).display (dotted [whole, fraction]) = .ok .eq ↔
      ¬ Loses [whole, fraction] := by
  refine ⟨fun equal loses => lost_pair loses written equal, fun kept => ?_⟩
  rw [display_pair precise run behind, compareVersions_eq_iff (written_display run behind written) written]
  simp only [List.map_cons, List.map_nil, Text.digitsValue_toDigits]
  refine canonical_pair_iff.mpr ⟨rfl, digitsValue_fractionText (fun tens => ?_)⟩
  by_contra nonzero
  exact kept (.zeros nonzero tens)

private theorem display_long (three : 3 ≤ runs.length) :
    (runsValue runs).display = dotted runs := by
  match runs, three with
  | _ :: _ :: _ :: _, _ => rfl

/-- With few digits in a pair of runs, exactly the versions that lose nothing stay the same. -/
theorem equal_iff (filled : runs ≠ []) (each : ∀ run ∈ runs, IsRun run)
    (written : Version.Written (dotted runs) runs)
    (precise : ∀ whole fraction, runs = [whole, fraction] → Binary64.Precise whole fraction) :
    Version.compareVersions (runsValue runs).display (dotted runs) = .ok .eq ↔ ¬ Loses runs := by
  match runs, filled with
  | [digits], _ => exact equal_run (each digits List.mem_cons_self) written
  | [whole, fraction], _ =>
      obtain ⟨run, behind⟩ := List.forall_mem_cons.mp each
      exact equal_pair (precise whole fraction rfl) run (behind fraction List.mem_cons_self) written
  | first :: second :: third :: others, _ =>
      rw [display_long (by simp), compareVersions_eq_iff written written]
      exact iff_of_true rfl nofun

private theorem not_equal_of_loses (each : ∀ run ∈ runs, IsRun run)
    (written : Version.Written (dotted runs) runs) (loses : Loses runs) :
    Version.compareVersions (runsValue runs).display (dotted runs) ≠ .ok .eq := by
  cases loses with
  | octal eight several =>
      exact fun equal => (equal_run (each _ List.mem_cons_self) written).mp equal (.octal eight several)
  | zeros nonzero tens => exact lost_pair (.zeros nonzero tens) written

end

section
variable {names : List String} {version text : String} {configuration : Configuration}

private theorem floored_given : Floored (given names version) ↔ AtLeast version lowestVersion := by
  by_cases lowest : "minimum_version" ∈ names
  · have same : given names version =
        { usual with defaultVersion := version, minimumVersion := version } := by
      rw [given, if_pos lowest]
    rw [same]
    refine ⟨Floored.lowest, fun floor => ⟨floor, ?_⟩⟩
    obtain ⟨_, compared, _⟩ := floor
    obtain ⟨_, _, read, _⟩ := Version.compareVersions_eq_ok.mp compared
    exact Version.atLeast_self read
  · have same : given names version =
        { usual with defaultVersion := version, minimumVersion := lowestVersion } := by
      rw [given, if_neg lowest]
    rw [same]
    exact ⟨Floored.minimum, fun floor => ⟨floored_usual.lowest, floor⟩⟩

private theorem check_given_eq_ok : check (given names version) = .ok configuration ↔
    configuration = given names version ∧ AtLeast version lowestVersion := by
  constructor
  · intro checked
    obtain ⟨rfl, floored⟩ := floored_of_check checked
    exact ⟨rfl, floored_given.mp floored⟩
  · rintro ⟨rfl, floor⟩
    exact check_of_floored (floored_given.mpr floor)

private theorem atLeast_of_equal (equal : Version.compareVersions text version = .ok .eq)
    (floor : AtLeast version lowestVersion) : AtLeast text lowestVersion := by
  obtain ⟨order, compared, notBelow⟩ := floor
  obtain ⟨left, right, read, other, same⟩ := Version.compareVersions_eq_ok.mp equal
  obtain ⟨numbers, lowest, readAgain, readLowest, rfl⟩ := Version.compareVersions_eq_ok.mp compared
  rw [other] at readAgain
  cases readAgain
  rw [Version.compareComponents_eq_iff] at same
  refine ⟨_, Version.compareVersions_eq_ok.mpr ⟨left, lowest, read, readLowest, rfl⟩, ?_⟩
  rwa [Version.compareComponents_congr same]

end

/-- The file is read as settings whose default version is equal to the version that it gives. -/
def Keeps (world : World) (path version : String) : Prop :=
  ∃ configuration, (load path).result world = .ok configuration ∧
    Version.compareVersions configuration.defaultVersion version = .ok .eq

private theorem keeps_iff {world : World} {path version text : String} {names : List String}
    (loaded : (load path).run world = (check (given names text), world))
    (floor : AtLeast version lowestVersion) :
    Keeps world path version ↔ Version.compareVersions text version = .ok .eq := by
  have outcome : (load path).result world = check (given names text) := congrArg Prod.fst loaded
  unfold Keeps
  rw [outcome]
  constructor
  · rintro ⟨configuration, checked, equal⟩
    obtain ⟨rfl, _⟩ := check_given_eq_ok.mp checked
    exact equal
  · intro equal
    exact ⟨_, check_given_eq_ok.mpr ⟨rfl, atLeast_of_equal equal floor⟩, equal⟩

/-- A file that gives a version is read as settings with a text in its place. -/
structure Taken (world : World) (path : String) (names : List String) (runs : List (List Char))
    (text : String) : Prop where
  loaded : (load path).run world = (check (given names text), world)
  long : 3 ≤ runs.length → text = dotted runs
  /-- A single run is an integer, in base eight behind a zero if its digits allow it. -/
  single : ∀ digits, runs = [digits] →
    text = if isOctal digits then dotted [Nat.toDigits 10 (valueIn 8 digits)] else dotted runs
  /-- Two runs are the nearest double. -/
  pair : ∀ whole fraction, runs = [whole, fraction] → text = (Binary64.ofDecimal false
    (digitsValue (whole ++ fraction)) (-(fraction.length : Int))).text
  /-- If they have few digits, zeros in front and zeros at the end are lost. -/
  precise : ∀ whole fraction, runs = [whole, fraction] → Binary64.Precise whole fraction →
    text = dotted [Nat.toDigits 10 (digitsValue whole),
      Binary64.fractionText (fraction.rdropWhile (· = '0'))]
  lost : Loses runs → ¬ Keeps world path (dotted runs)
  kept : ¬ Loses runs →
    (∀ whole fraction, runs = [whole, fraction] → Binary64.Precise whole fraction) →
    Keeps world path (dotted runs)

section
variable {path : String} {names : List String} {runs : List (List Char)}

private theorem written_of_atLeast (filled : runs ≠ []) (each : ∀ run ∈ runs, IsRun run)
    (floor : AtLeast (dotted runs) lowestVersion) : Version.Written (dotted runs) runs := by
  obtain ⟨_, compared, _⟩ := floor
  obtain ⟨_, _, read, _⟩ := Version.compareVersions_eq_ok.mp compared
  exact Version.written_dotted filled each (Version.short_of_components filled each read)

private theorem run_load_version {world : World} (listed : names ∈ versionNames)
    (filled : runs ≠ [])
    (each : ∀ run ∈ runs, IsRun run) (written : Version.Written (dotted runs) runs)
    (held : world.tree.read world.here path = .ok (versionContent names (dotted runs))) :
    (load path).run world = (check (given names (runsValue runs).display), world) := by
  rw [run_load held]
  refine congrArg (·, world) (ofContent_versionContent listed ?_ ?_ _ path)
  · rw [dotted, String.toList_ofList]
    exact isWord_of_dotted (Text.isDotted_intercalate filled each)
  · exact Yaml.scalarValue_runs filled each written.short

/-- A version that keeps to the floor is used as it was written if it has three runs of digits or more.
A shorter one is read as a number. If it loses a zero or is taken for a number in base eight, it is
another version or none; otherwise it stays the same version as long as it has few digits. -/
theorem taken_of_held (world : World) (listed : names ∈ versionNames) (filled : runs ≠ [])
    (each : ∀ run ∈ runs, IsRun run) (floor : AtLeast (dotted runs) lowestVersion)
    (held : world.tree.read world.here path = .ok (versionContent names (dotted runs))) :
    ∃ text, Taken world path names runs text := by
  have written := written_of_atLeast filled each floor
  have loaded := run_load_version listed filled each written held
  have keeps := keeps_iff loaded floor
  refine ⟨(runsValue runs).display, loaded, fun three => ?_, ?_, ?_, ?_, fun loses kept => ?_,
    fun kept precise => ?_⟩
  · exact display_long three
  · rintro digits rfl
    exact display_run (each digits List.mem_cons_self)
  · rintro whole fraction rfl
    rfl
  · rintro whole fraction rfl precise
    obtain ⟨run, behind⟩ := List.forall_mem_cons.mp each
    exact display_pair precise run (behind fraction List.mem_cons_self)
  · exact not_equal_of_loses each written loses (keeps.mp kept)
  · exact keeps.mpr ((equal_iff filled each written precise).mpr kept)

end

def versionWorld (names : List String) (version : String) : World where
  tree := ⟨[(["settings.yaml"], .file (versionContent names version))]⟩
  here := []
  scratch := []
  reply _ := .noAnswer (.request "")
  finished _ := []
  requests := []
  log := []
  printed := []

private theorem read_versionWorld (names : List String) (version : String) :
    (versionWorld names version).tree.read (versionWorld names version).here "settings.yaml" =
      .ok (versionContent names version) := by
  generalize shape : versionContent names version = content
  unfold versionWorld
  rw [shape]
  rfl

def tenRuns : List (List Char) :=
  [['1'], ['1', '0']]

private theorem isRun_tenRuns : ∀ run ∈ tenRuns, IsRun run := by
  decide

private theorem tenRuns_atLeast : AtLeast (dotted tenRuns) lowestVersion := by
  have read : Version.components (dotted tenRuns) = .ok [1, 10] := by decide +kernel
  have lowest : Version.components lowestVersion = .ok [0, 7, 3] := by decide +kernel
  refine ⟨_, Version.compareVersions_eq_ok.mpr ⟨_, _, read, lowest, rfl⟩, ?_⟩
  rw [Version.compareComponents_step, Version.compare_then_ne_lt]
  exact .inl (by decide)

theorem taken_of_held_tenRuns : ["default_version"] ∈ versionNames ∧ tenRuns ≠ [] ∧
    (∀ run ∈ tenRuns, IsRun run) ∧ AtLeast (dotted tenRuns) lowestVersion ∧
    ∃ text, Taken (versionWorld ["default_version"] (dotted tenRuns)) "settings.yaml"
      ["default_version"] tenRuns text :=
  ⟨by decide, by decide, isRun_tenRuns, tenRuns_atLeast,
    taken_of_held _ (by decide) (by decide) isRun_tenRuns tenRuns_atLeast (read_versionWorld _ _)⟩

/-- The zero at the end of the version is lost. -/
theorem not_keeps_tenRuns : ¬ ∀ world path names runs, names ∈ versionNames → runs ≠ [] →
    (∀ run ∈ runs, IsRun run) → AtLeast (dotted runs) lowestVersion →
    world.tree.read world.here path = .ok (versionContent names (dotted runs)) →
    Keeps world path (dotted runs) := by
  intro keeps
  have listed : ["default_version"] ∈ versionNames := by decide
  have filled : tenRuns ≠ [] := by decide
  have held := read_versionWorld ["default_version"] (dotted tenRuns)
  have written := written_of_atLeast filled isRun_tenRuns tenRuns_atLeast
  have loaded := run_load_version listed filled isRun_tenRuns written held
  have loses : Loses tenRuns := .zeros (by decide) (by decide)
  exact not_equal_of_loses isRun_tenRuns written loses ((keeps_iff loaded tenRuns_atLeast).mp
    (keeps _ _ _ _ listed filled isRun_tenRuns tenRuns_atLeast held))

end WrapperTypings.Configuration
