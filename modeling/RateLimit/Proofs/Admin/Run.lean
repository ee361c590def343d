import RateLimit.Admin.Run
import RateLimit.Proofs.Registry.Settings

/-!
# How a task goes

A task makes a client for the address in the settings, then the policies of the settings, and
is carried out with both. So there are three ways in which it can go, each with an equation: the
URL in the settings is no address, `Admin.run_of_unreadable`; the settings make no policies,
`Admin.exists_run_of_policyError`; or the task is carried out and its client is closed,
`Admin.exists_run_eq`.
-/

namespace RateLimit

open Act

/-- The limiter of a task: its policies, and the timeout of the settings. -/
def Limiter.administrative (reg : Registry) (r : Replica) : Limiter where
  registry := reg
  timeout := .seconds r.settings.storeTimeout

namespace Replica

/-- The replica once a task has made its client. -/
def readied (place : Admin.Place) (address : Address) (r : Replica) : Replica :=
  { r with
    issuedConnections := r.issuedConnections + 1
    counterClient := some (place.client (r.connectionTo address none none)) }

/-- The replica once a connection to an address is closed. -/
def hungUp (place : Admin.Place) (connection : Connection) (r : Replica) : Replica :=
  { r with
    closed := if place.isStore connection.address then r.closed + 1 else r.closed
    closings := r.closings ++ [connection.serial] }

end Replica

namespace Admin

variable {r : Replica} {place : Place} {address : Address} {task : Task}
  {arguments : List String}

/-- Only an address of the store leads to it. -/
theorem Place.isStore_of_client_eq {connection : Connection}
    (h : place.client connection = .shared) : place.isStore connection.address = true := by
  unfold client at h
  split_ifs at h with hstore
  exact hstore

theorem on_takeClient_of_error {e : AddressError}
    (h : Address.read? r.settings.storeUrl = .error e) (place : Place) :
    (takeClient place).on r = (.error (.address e), r) := by
  unfold takeClient Replica.connect
  rw [bind_assoc, on_bind_of_ok r (on_get r)]
  dsimp only [Option.filter, Option.getD]
  rw [h]
  rfl

theorem on_takeClient_of_ok (h : Address.read? r.settings.storeUrl = .ok address)
    (place : Place) :
    (takeClient place).on r =
      (.ok (r.connectionTo address none none), r.readied place address) := by
  unfold takeClient Replica.connect
  rw [bind_assoc, on_bind_of_ok r (on_get r)]
  dsimp only [Option.filter, Option.getD]
  rw [h]
  rfl

/-- Nothing is done if the URL in the settings is no address. -/
theorem run_of_unreadable {e : AddressError}
    (h : Address.read? r.settings.storeUrl = .error e) (task : Task) (place : Place) :
    (run task place).run r = ({ outcome := .error (.address e) }, r) := by
  have hclient := on_takeClient_of_error h place
  unfold Act.on at hclient
  unfold run
  rw [StateT.run_bind, hclient]
  rfl

theorem run_of_address (h : Address.read? r.settings.storeUrl = .ok address) (task : Task)
    (place : Place) :
    (run task place).run r =
      (carryOut task place (r.connectionTo address none none)).run (r.readied place address) := by
  have hclient := on_takeClient_of_ok h place
  unfold Act.on at hclient
  unfold run
  rw [StateT.run_bind, hclient]
  rfl

/-- Settings that make no policies end a task when its client is made. -/
theorem exists_run_of_policyError {e : PolicyError}
    (h : Address.read? r.settings.storeUrl = .ok address)
    (hpolicies : (Registry.defaults.configure r.settings.overrides).outcome = .error e)
    (task : Task) (place : Place) :
    ∃ records, (run task place).run r =
      ({ outcome := .error (.policy e) }, (r.readied place address).relogged records) := by
  obtain ⟨records, hsettings⟩ := Registry.on_ofSettings (r.readied place address)
  have hsame : (r.readied place address).settings = r.settings := rfl
  rw [hsame, hpolicies] at hsettings
  unfold Act.on at hsettings
  refine ⟨records, ?_⟩
  rw [run_of_address h, carryOut, StateT.run_bind, hsettings]
  rfl

/-- A task is carried out with the policies of the settings, and then its client is closed. -/
theorem exists_run_eq {reg : Registry} (h : Address.read? r.settings.storeUrl = .ok address)
    (hpolicies : (Registry.defaults.configure r.settings.overrides).outcome = .ok reg)
    (task : Task) (place : Place) :
    ∃ records,
      let done := (perform place.zone (Limiter.administrative reg r) task).on
        ((r.readied place address).relogged records)
      (run task place).run r =
        (reportOf done.1, done.2.hungUp place (r.connectionTo address none none)) := by
  have hsame : (r.readied place address).settings = r.settings := rfl
  obtain ⟨records, hsettings⟩ :=
    Registry.on_ofSettings_of_ok (r := r.readied place address) (hsame ▸ hpolicies)
  unfold Act.on at hsettings
  refine ⟨records, ?_⟩
  rw [run_of_address h, carryOut, StateT.run_bind, hsettings]
  rfl

theorem runLine_of_task (h : CommandLine.read arguments = .task task) (place : Place) :
    runLine arguments place = run task place := by
  unfold runLine
  rw [h]

end Admin

end RateLimit
