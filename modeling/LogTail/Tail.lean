import LogTail.Simulation
import LogTail.Startup

/-!
Printing the log of a service whose responses are known.
-/
namespace LogTail

/-- What the program prints, and the calls it makes, when the service answers with the given
responses and is silent after them. -/
def tail (startup : Startup) (responses : List Response) : List String × List ServiceCall :=
  let settings := startup.settings
  let sim := Simulation.start settings.session settings.level (.served responses)
  let view := (View.ofSnapshot sim.session.published).withThreshold (.units settings.pinRows)
  let (sim, follower) := (Follower.new view 0).follow sim
    (fun s => responses.length < s.calls.length) (sim.period * (responses.length + 1))
  (follower.lines, sim.calls)

end LogTail
