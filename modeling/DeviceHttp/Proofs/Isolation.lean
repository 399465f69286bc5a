import DeviceHttp.Proofs.Counters
import DeviceHttp.Proofs.Serving

/-!
# No connection influences the next one

Whatever a server has been through, it serves the next connection as a server would that has just
been bound. What earlier connections have left in the two buffers, and the counters, the phase and
the requests for shutdown that they have left behind, is not visible to a later one.

## Main statements

`Server.isolated_after_bind` compares two servers with the same routes and settings that accept the
same connection: one after any history of calls, and one that was just bound. It says that the
request ends in the same way on both, with the same error if it fails, and that the connection is
handed back in the same state: what it was sent, what is left to read, and every operation on it,
its end included.

## Why it holds

What becomes of a connection hangs on the facilities of the server alone (`Server.attend_congr`). No
call changes them but an exchange of the routes (`Server.facilities_perform`). The earlier connections and their
outcomes do not occur in this argument.
-/

namespace DeviceHttp

namespace Server

/-! ## Facilities over a history -/

theorem facilities_bind {source : ConnectionSource} {device : Device} {routes : RouteTable}
    {settings : Settings} {s : Server} (bound : bind source device routes settings = .ok s) :
    s.facilities = ⟨routes, settings.receiveCapacity, settings.headerCapacity⟩ := by
  rw [bind] at bound
  split at bound
  · cases bound
  · cases bound
    rw [facilities, service_note]
    exact congrArg (Facilities.mk routes settings.receiveCapacity) (HeaderBuffer.capacity_new _)

theorem facilities_step (s : Server) : s.step.2.facilities = s.facilities := by
  have effect := s.serviceEffect_step
  rw [facilities, facilities]
  generalize s.step.1 = answer, s.step.2.service = service at effect ⊢
  cases effect <;> rfl

/-- A call changes the facilities of a server only by an exchange of routes. -/
theorem facilities_perform (s : Server) (call : Call) :
    (s.perform call).facilities = { s.facilities with routes := (s.perform call).routes } := by
  cases call with
  | step =>
    have same := s.facilities_step
    have routes : s.step.2.routes = s.routes := congrArg Facilities.routes same
    rw [perform, same, routes]
    rfl
  | restart =>
    have same : s.restart.2.facilities = s.facilities :=
      congrArg Service.toFacilities s.service_restart
    have routes : s.restart.2.routes = s.routes := congrArg Facilities.routes same
    rw [perform, same, routes]
    rfl
  | influence influence => cases influence <;> rfl

theorem facilities_after (s : Server) (history : List Call) :
    (s.after history).facilities = { s.facilities with routes := (s.after history).routes } := by
  induction history generalizing s with
  | nil => rfl
  | cons call history ih => rw [after, List.foldl_cons, ← after, ih, facilities_perform]

/-- A history without an exchange of routes leaves the facilities as they are. -/
theorem facilities_after_of_kept {s : Server} {history : List Call}
    (kept : ∀ table, .influence (.routes table) ∉ history) : (s.after history).facilities = s.facilities := by
  induction history generalizing s with
  | nil => rfl
  | cons call history ih =>
    rw [after, List.foldl_cons, ← after, ih fun table mem => kept table (.tail _ mem)]
    cases call with
    | step => exact s.facilities_step
    | restart => exact congrArg Service.toFacilities s.service_restart
    | influence influence =>
      cases influence with
      | shutdown => rfl
      | routes table => exact absurd List.mem_cons_self (kept table)

/-! ## Two servers -/

/-- The next cycle of a server accepts a connection, its request has an outcome, and the connection
is handed back in some state. -/
structure Serves (s : Server) (c : Connection) (outcome : Except Error Cycle) (ended : Connection) :
    Prop where
  accepts : s.Accepts c
  /-- How the request ends, with the error if it fails. -/
  ends : s.beforeAccept.serveNext.1 = outcome
  handsBack : s.step.2.source.served = s.source.served ++ [ended]
  /-- The answer of the cycle, unless the request fails and the cycle tells of that. -/
  answers : ∀ cycle, outcome = .ok cycle → s.step.1 = .ok cycle

theorem serves_of_accepts {s : Server} {c : Connection} (accepts : s.Accepts c) :
    s.Serves c (s.attend c).1 (s.attend c).2 := by
  obtain ⟨answers, handedBack⟩ := step_of_accepts accepts
  exact {
    accepts
    ends := (serveNext_of_accepts accepts).1
    handsBack := congrArg Service.served handedBack
    answers := fun cycle outcome => (answers cycle (succeeded_of_handle outcome)).2 outcome }

/-- **No connection influences the next one.** -/
theorem isolated_after_bind {source source' : ConnectionSource} {device device' : Device}
    {routes : RouteTable} {settings : Settings} {s t : Server}
    (bound : bind source device routes settings = .ok s) (history : List Call) {c : Connection}
    (later : (s.after history).Accepts c)
    (fresh : bind source' device' (s.after history).routes settings = .ok t)
    (first : t.Accepts c) :
    ∃ outcome ended, (s.after history).Serves c outcome ended ∧ t.Serves c outcome ended := by
  have same : (s.after history).facilities = t.facilities := by
    rw [facilities_after, facilities_bind bound, facilities_bind fresh]
  have served := serves_of_accepts later
  rw [attend_congr same] at served
  exact ⟨_, _, served, serves_of_accepts first⟩

/-- The history has a request that is too large, one that is cut off, one whose answer cannot be
written, and a restart. -/
theorem isolated_after_failures :
    let greet : Handler := fun _ => .respond (.ok MediaType.plainText (Utf8.encode "hello"))
    let tooLarge := Utf8.encode "POST / HTTP/1.1\r\nContent-Length: 99\r\n\r\n"
    let cutOff := Utf8.encode "POST / HTTP/1.1\r\nContent-Length: 5\r\n\r\nab"
    let get := Utf8.encode "GET / HTTP/1.1\r\n\r\n"
    let c : Connection := { arrivals := [.data get] }
    let source : ConnectionSource :=
      { accepts := [
          .connection { arrivals := [.data tooLarge] },
          .connection { arrivals := [.data cutOff] },
          .connection { arrivals := [.data get], writeAnswers := [.accept 9, .fault .brokenPipe] },
          .connection c] }
    let settings : Settings := { receiveCapacity := 64 }
    let history : List Call := [.step, .step, .step, .restart]
    ∃ s t, bind source {} [.any "/" greet] settings = .ok s ∧
      bind { accepts := [.connection c] } {} (s.after history).routes settings = .ok t ∧
        ∃ outcome ended, (s.after history).Serves c outcome ended ∧ t.Serves c outcome ended := by
  intro greet tooLarge cutOff get c source settings history
  have isolated (s t : Server) (bound : bind source {} [.any "/" greet] settings = .ok s)
      (fresh : bind { accepts := [.connection c] } {} (s.after history).routes settings = .ok t)
      (later : (s.after history).Accepts c) (first : t.Accepts c) :
      ∃ outcome ended, (s.after history).Serves c outcome ended ∧ t.Serves c outcome ended :=
    isolated_after_bind bound history later fresh first
  refine ⟨_, _, rfl, rfl, isolated _ _ rfl rfl ⟨?_, ?_⟩ ⟨rfl, rfl⟩⟩
  · decide +kernel
  · decide +kernel

end Server

end DeviceHttp
