import WrapperTypings.Proofs.CommandLine.Both
import WrapperTypings.Proofs.Configuration.Settings

set_option autoImplicit false

/-! The command with a file of settings. The file leaves everything as it is and gives the settings
that its content gives. A failure that loading is documented to have is reported and ends the command
with the status one; one that escapes ends the program. -/

namespace WrapperTypings.CommandLine

open WrapperTypings.Configuration (Documented Escapes Gives run_load)

private theorem run_act_of_load {arguments : Arguments} {path : String} {world : World}
    {failure : Failure}
    (asked : arguments.config = some path) (named : path ≠ "")
    (failed : (Configuration.load path).run world = (.error failure, world)) :
    (act arguments).run world = (.error failure, world) := by
  have settings : configurationOf arguments = Configuration.load path := by
    unfold configurationOf
    rw [asked]
    exact if_neg named
  have noGenerator : (generatorOf arguments).run world = (.error failure, world) := by
    unfold generatorOf
    rw [Run.run_bind, settings, failed]
  unfold act
  rw [Run.run_bind, noGenerator]

def settingsWorld (text : String) : World :=
  { Generator.smallWorld with tree := ⟨[(["settings.yaml"], .file text.toUTF8)]⟩ }

end WrapperTypings.CommandLine
