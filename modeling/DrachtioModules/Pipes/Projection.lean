import DrachtioModules.Pipes.Local

/-!
# Every step of the whole at each pipe

The local lists of the service thread name a pipe once, and a pipe the thread
has just dealt with is not in them any more.  With that, a step of the whole is,
seen from any pipe, one of the things that can happen to a pipe.
-/

namespace DrachtioModules.Pipes

open AudioFork (Bytes LwsState NotifyEvent Wsi ConnectCall FailStage)

/-- The local lists name a pipe once. -/
def Service.Tidy : Service → Prop
  | .connects list => list.Nodup
  | .connectNull n list => n ∉ list ∧ list.Nodup
  | .failing n _ back =>
      n ∉ back.rest ∧ back.rest.Nodup ∧ ∀ list, back ≠ .call list
  | _ => True

/-- The guard of the runs in which no call of `lws_client_connect_via_info` that
fails has delivered CONNECTION_ERROR with the wsi already stored in the pipe. -/
def reportedOnce (s : State) : Act → Bool
  | .serve (.error true) _ _ =>
      match s.service with
      | .connects (_ :: _) => false
      | _ => true
  | _ => true

variable {variant : Variant}

theorem runCode_cases (variant : Variant) (s : State) (n : Nat) (ok : Bool)
    (code : Code) (stand : Pipe → Option Code → Pipe) :
    ∃ pipe next pending happenings,
      stepCode variant (s.pipes n) ok code =
        (pipe, next, pending, happenings) ∧
      runCode variant s n ok code stand =
        ((s.put n (stand pipe next)).push n pending, next,
          happenings.map (n, ·)) :=
  ⟨_, _, _, _, rfl, rfl⟩

theorem view_eq {s : State} {n : Nat} {v : View} (pipe : s.pipes n = v.pipe)
    (connects : n ∈ s.pendingConnects ↔ v.connects = true)
    (disconnects : n ∈ s.pendingDisconnects ↔ v.disconnects = true)
    (writes : n ∈ s.pendingWrites ↔ v.writes = true)
    (vhost : s.vhost = v.vhost) (role : s.service.role n = v.role) :
    s.view n = v := by
  have list : ∀ {present : Prop} [Decidable present] {flag : Bool},
      (present ↔ flag = true) → decide present = flag := by
    intro present _ flag same
    cases flag <;> simpa using same
  cases v
  simp only [State.view, View.mk.injEq]
  exact ⟨pipe, list connects, list disconnects, list writes, vhost, role⟩

@[simp] theorem view_connects (s : State) (n : Nat) :
    (s.view n).connects = true ↔ n ∈ s.pendingConnects := by
  simp [State.view]

@[simp] theorem view_disconnects (s : State) (n : Nat) :
    (s.view n).disconnects = true ↔ n ∈ s.pendingDisconnects := by
  simp [State.view]

@[simp] theorem view_writes (s : State) (n : Nat) :
    (s.view n).writes = true ↔ n ∈ s.pendingWrites := by
  simp [State.view]

@[simp] theorem view_vhost (s : State) (n : Nat) :
    (s.view n).vhost = s.vhost := rfl

@[simp] theorem view_role (s : State) (n : Nat) :
    (s.view n).role = s.service.role n := rfl

@[simp] theorem put_pipes_same (s : State) (n : Nat) (pipe : Pipe) :
    (s.put n pipe).pipes n = pipe := by
  simp [State.put]

theorem put_pipes_other (s : State) {n k : Nat} (other : k ≠ n) (pipe : Pipe) :
    (s.put k pipe).pipes n = s.pipes n := by
  simp [State.put, Function.update_of_ne other.symm]

@[simp] theorem put_fields (s : State) (n : Nat) (pipe : Pipe) :
    (s.put n pipe).pendingConnects = s.pendingConnects ∧
      (s.put n pipe).pendingDisconnects = s.pendingDisconnects ∧
      (s.put n pipe).pendingWrites = s.pendingWrites ∧
      (s.put n pipe).vhost = s.vhost ∧ (s.put n pipe).service = s.service :=
  ⟨rfl, rfl, rfl, rfl, rfl⟩

theorem Local.of_still {s s' : State} {n : Nat} {events : List Event}
    (silent : about n events = []) (view : s'.view n = s.view n) :
    Local variant (s.view n) (about n events) (s'.view n) := by
  rw [silent, view]
  exact .still

theorem connect_local {s s' : State} {k : Nat} {ok : Bool}
    {events : List Event} (step : stepConnect s k ok = some (s', events))
    (n : Nat) : Local variant (s.view n) (about n events) (s'.view n) := by
  by_cases same : k = n
  · subst same
    cases call : (s.pipes k).connectCall with
    | notCalled =>
        simp only [stepConnect, call] at step
        split at step <;> cases step
        all_goals
          rw [view_put_same]
          exact .enters call
    | entered =>
        simp only [stepConnect, call] at step
        split at step <;> cases step
        · have after : State.view { s.put k { s.pipes k with
                connectCall := .cancelService } with
              pendingConnects := s.pendingConnects ++ [k] } k =
              { s.view k with
                pipe := { s.pipes k with connectCall := .cancelService }
                connects := true } := by
            apply view_eq <;> simp
          rw [after]
          exact .pushes call
        · rw [view_put_same]
          exact .refuses call
    | notify =>
        simp only [stepConnect, call] at step
        cases step
        rw [view_put_same, about_cons_same]
        exact .refusalNotified call
    | signal =>
        simp only [stepConnect, call] at step
        cases step
        rw [view_put_same, about_cons_same]
        exact .refusalSignaled call
    | cancelService =>
        simp only [stepConnect, call] at step
        cases step
        rw [view_put_same]
        exact .connectReturns call
    | returned =>
        simp only [stepConnect, call] at step
        cases step
  · cases call : (s.pipes k).connectCall with
    | entered =>
        simp only [stepConnect, call] at step
        split at step <;> cases step
        · apply Local.of_still rfl
          apply view_eq <;> simp [put_pipes_other s same, Ne.symm same]
        · exact .of_still rfl (view_put_other s same _)
    | notCalled =>
        simp only [stepConnect, call] at step
        split at step <;> cases step
        all_goals exact .of_still rfl (view_put_other s same _)
    | notify | signal | cancelService =>
        simp only [stepConnect, call] at step
        cases step
        exact .of_still (by simp [about_cons_other same])
          (view_put_other s same _)
    | returned =>
        simp only [stepConnect, call] at step
        cases step

/-- A member function of `k` run by a thread that is not the service thread. -/
theorem view_ran (s : State) {n k : Nat} (other : k ≠ n) (pipe : Pipe)
    (pending : Option Pending) :
    ((s.put k pipe).push k pending).view n = s.view n :=
  (view_push_other _ other _).trans (view_put_other _ other _)

theorem call_local {s s' : State} {k : Nat} {ok : Bool} {events : List Event}
    (step : stepCall variant s k ok = some (s', events)) (n : Nat) :
    Local variant (s.view n) (about n events) (s'.view n) := by
  simp only [stepCall] at step
  split at step
  · rename_i code call
    obtain ⟨pipe, next, pending, happenings, runs, ran⟩ :=
      runCode_cases variant s k ok code
        fun pipe next => { pipe with owner := .session next }
    rw [ran] at step
    cases step
    by_cases same : k = n
    · subst same
      rw [view_push_same, view_put_same, about_map_same]
      exact .advances call runs
    · exact .of_still (about_map_other same _) (view_ran s same _ _)
  · cases step
  · cases step
  · cases step

theorem reaper_local {s s' : State} {k : Nat} {ok : Bool} {events : List Event}
    (step : stepReaper variant s k ok = some (s', events)) (n : Nat) :
    Local variant (s.view n) (about n events) (s'.view n) := by
  simp only [stepReaper] at step
  split at step
  · cases step
  · cases step
  · rename_i code closing
    obtain ⟨pipe, next, pending, happenings, runs, ran⟩ :=
      runCode_cases variant s k ok code fun pipe next =>
        { pipe with owner := .reaper (next.elim .waiting .closing) }
    rw [ran] at step
    cases step
    by_cases same : k = n
    · subst same
      rw [view_push_same, view_put_same, about_map_same]
      exact .reaperAdvances closing runs
    · exact .of_still (about_map_other same _) (view_ran s same _ _)
  · rename_i waiting
    split at step <;> cases step
    rename_i signaled
    by_cases same : k = n
    · subst same
      rw [view_put_same]
      exact .waited waiting signaled
    · exact .of_still rfl (view_put_other s same _)
  · rename_i stage
    cases step
    by_cases same : k = n
    · subst same
      have after : State.view { s.put k { s.pipes k with
            owner := .reaper .fromDisconnects } with
          pendingConnects := s.pendingConnects.filter (· ≠ k) } k =
          { s.view k with
            pipe := { s.pipes k with owner := .reaper .fromDisconnects }
            connects := false } := by
        apply view_eq <;> simp
      rw [after]
      exact .fromConnects stage
    · apply Local.of_still rfl
      apply view_eq <;> simp [put_pipes_other s same, Ne.symm same]
  · rename_i stage
    cases step
    by_cases same : k = n
    · subst same
      have after : State.view { s.put k { s.pipes k with
            owner := .reaper .fromWrites } with
          pendingDisconnects := s.pendingDisconnects.filter (· ≠ k) } k =
          { s.view k with
            pipe := { s.pipes k with owner := .reaper .fromWrites }
            disconnects := false } := by
        apply view_eq <;> simp
      rw [after]
      exact .fromDisconnects stage
    · apply Local.of_still rfl
      apply view_eq <;> simp [put_pipes_other s same, Ne.symm same]
  · rename_i stage
    cases step
    by_cases same : k = n
    · subst same
      have after : State.view { s.put k { s.pipes k with
            owner := .reaper .deleted } with
          pendingWrites := s.pendingWrites.filter (· ≠ k) } k =
          { s.view k with
            pipe := { s.pipes k with owner := .reaper .deleted }
            writes := false } := by
        apply view_eq <;> simp
      rw [after, about_cons_same]
      exact .fromWrites stage
    · apply Local.of_still (about_cons_other same _ _)
      apply view_eq <;> simp [put_pipes_other s same, Ne.symm same]
  · cases step

theorem mem_of_mem_looked {s : State} {n k : Nat} {list : List Nat}
    (member : k ∈ s.looked n list) : k ∈ list := by
  induction list with
  | nil => exact member
  | cons first rest ih =>
      simp only [State.looked] at member
      split at member
      · rw [List.mem_singleton.mp member]
        exact List.mem_cons_self
      · rcases List.mem_cons.mp member with rfl | later
        · exact List.mem_cons_self
        · exact List.mem_cons_of_mem _ (ih later)

theorem finds_iff {s : State} {n : Nat} :
    s.finds n = true ↔ n ∈ s.pendingConnects ∧
      (s.pipes n).state = .connecting ∧ (s.pipes n).pwsi = true := by
  simp only [State.finds, State.matching, List.any_eq_true, Bool.and_eq_true,
    decide_eq_true_eq]
  constructor
  · rintro ⟨k, member, ⟨connecting, stored⟩, rfl⟩
    exact ⟨member, connecting, stored⟩
  · rintro ⟨member, connecting, stored⟩
    exact ⟨n, member, ⟨connecting, stored⟩, rfl⟩

theorem search_scans (s : State) (n k : Nat) :
    (∀ happening ∈ about k ((s.looked n s.pendingConnects).map (·, .scanned)),
        happening = .scanned) ∧
      (about k ((s.looked n s.pendingConnects).map (·, .scanned)) ≠ [] →
        (s.view k).connects = true) := by
  obtain ⟨only, listed⟩ := about_scan k (s.looked n s.pendingConnects)
  exact ⟨only, fun some => (view_connects s k).mpr
    (mem_of_mem_looked (listed some))⟩

/-- A pipe other than the one that is found keeps its place, unless its connect
has failed. -/
theorem search_other {s : State} {n k : Nat} (other : n ≠ k) :
    Local variant (s.view k)
      (about k (findAndRemovePendingConnect s n).2)
      ((findAndRemovePendingConnect s n).1.view k) := by
  obtain ⟨only, listed⟩ := search_scans s n k
  by_cases removed : k ∈ s.toRemove n
  · have failed : (s.pipes k).state = .failed := by
      simp only [State.toRemove, List.mem_filter, Bool.and_eq_true,
        decide_eq_true_eq] at removed
      exact removed.2.2
    have member : k ∈ s.pendingConnects := by
      simp only [State.toRemove, List.mem_filter] at removed
      exact mem_of_mem_looked removed.1
    have after : (findAndRemovePendingConnect s n).1.view k =
        { s.view k with connects := false } := by
      apply view_eq <;> simp [findAndRemovePendingConnect, removed]
    rw [after]
    exact .purged only (by simpa using member) failed
  · have after : (findAndRemovePendingConnect s n).1.view k = s.view k := by
      apply view_eq <;>
        simp [findAndRemovePendingConnect, removed, Ne.symm other]
    rw [after]
    exact .scanned only listed

/-- The pass of `processPendingConnects` over the list: which pipes it takes,
and that it takes each once. -/
theorem adoptIdle_mem {pipes : Nat → Pipe} {list : List Nat} {n : Nat} :
    n ∈ (adoptIdle pipes list).2 ↔ n ∈ list ∧ (pipes n).state = .idle := by
  induction list generalizing pipes with
  | nil => simp [adoptIdle]
  | cons k list ih =>
      simp only [adoptIdle]
      split
      · rename_i waiting
        by_cases same : n = k
        · subst same
          simp [waiting]
        · simp [ih, same]
      · rename_i later
        rw [ih]
        by_cases same : n = k
        · subst same
          simp [later]
        · simp [same]

theorem adoptIdle_nodup {pipes : Nat → Pipe} {list : List Nat} :
    (adoptIdle pipes list).2.Nodup := by
  induction list generalizing pipes with
  | nil => exact List.nodup_nil
  | cons k list ih =>
      simp only [adoptIdle]
      split
      · apply List.nodup_cons.mpr
        refine ⟨?_, ih⟩
        rw [adoptIdle_mem]
        simp
      · exact ih

theorem adoptIdle_pipe {pipes : Nat → Pipe} {list : List Nat} {n : Nat} :
    (adoptIdle pipes list).1 n =
      if n ∈ list ∧ (pipes n).state = .idle then
        { pipes n with state := .connecting }
      else pipes n := by
  induction list generalizing pipes with
  | nil => simp [adoptIdle]
  | cons k list ih =>
      simp only [adoptIdle]
      split
      · rename_i waiting
        by_cases same : n = k
        · subst same
          simp [ih, waiting]
        · simp [ih, same]
      · rename_i later
        rw [ih]
        by_cases same : n = k
        · subst same
          simp [later]
        · simp [same]

theorem pass_local {s : State} (ready : s.vhost = true)
    (idle : s.service = .idle) (n : Nat) :
    Local variant (s.view n)
      (about n (s.pendingConnects.map (·, .scanned)))
      (State.view { s with
        pipes := (adoptIdle s.pipes s.pendingConnects).1
        service := .connects (adoptIdle s.pipes s.pendingConnects).2 } n) := by
  obtain ⟨only, listed⟩ := about_scan n s.pendingConnects
  by_cases adopted : n ∈ s.pendingConnects ∧ (s.pipes n).state = .idle
  · have after : State.view { s with
          pipes := (adoptIdle s.pipes s.pendingConnects).1
          service := .connects (adoptIdle s.pipes s.pendingConnects).2 } n =
        { s.view n with
          pipe := { s.pipes n with state := .connecting }
          role := .picked } := by
      apply view_eq <;>
        simp [adoptIdle_pipe, adoptIdle_mem, Service.role, adopted]
    rw [after]
    refine .adopts only ready ?_ (by simpa using adopted.1) adopted.2
    simp [idle, Service.role]
  · have after : State.view { s with
          pipes := (adoptIdle s.pipes s.pendingConnects).1
          service := .connects (adoptIdle s.pipes s.pendingConnects).2 } n =
        s.view n := by
      apply view_eq <;>
        simp [adoptIdle_pipe, adoptIdle_mem, Service.role, adopted, idle]
    rw [after]
    exact .scanned only fun some => (view_connects s n).mpr (listed some)

theorem header_local {s : State} {k : Nat} (n : Nat) :
    Local variant (s.view n)
      (about n ((s.looked k s.pendingConnects).map (·, .scanned) ++
        if s.finds k then [(k, .touched)] else [])) (s.view n) := by
  obtain ⟨only, listed⟩ := search_scans s k n
  rw [about_append]
  by_cases same : k = n
  · subst same
    cases finds : s.finds k with
    | false => simpa [finds] using Local.scanned only listed
    | true =>
        obtain ⟨member, connecting, _⟩ := finds_iff.mp finds
        have header : about k [(k, Happening.touched)] = [.touched] := by simp
        rw [if_pos rfl, header]
        exact .header only (by simpa using member) connecting
  · have silent : about n (if s.finds k then [(k, .touched)] else []) = [] := by
      split
      · exact about_cons_other same _ _
      · rfl
    rw [silent, List.append_nil]
    exact .scanned only listed

/-- The handshake of `k` ends and the search finds its pipe, which leaves the
list. -/
theorem found_view {s : State} {k : Nat} (finds : s.finds k = true)
    (pipe : Pipe) (service : Service) (role : Role)
    (runs : service.role k = role) :
    State.view { (findAndRemovePendingConnect s k).1.put k pipe with
        service := service } k =
      { s.view k with pipe := pipe, connects := false, role := role } := by
  apply view_eq <;> simp [findAndRemovePendingConnect, finds, runs]

theorem found_other {s : State} {n k : Nat} (other : k ≠ n) (pipe : Pipe)
    {service : Service} (idle : s.service = .idle)
    (runs : service.role n = .away) :
    Local variant (s.view n)
      (about n (findAndRemovePendingConnect s k).2)
      (State.view { (findAndRemovePendingConnect s k).1.put k pipe with
        service := service } n) := by
  have away : s.service.role n = .away := by rw [idle]; rfl
  have after : State.view { (findAndRemovePendingConnect s k).1.put k pipe with
      service := service } n = (findAndRemovePendingConnect s k).1.view n := by
    apply view_eq <;>
      simp [put_pipes_other _ other, runs, findAndRemovePendingConnect, away]
  rw [after]
  exact search_other other

theorem established_local {s : State} {k : Nat} (ready : s.vhost = true)
    (idle : s.service = .idle)
    (handshaking : (s.pipes k).wsi = .handshaking) (n : Nat) :
    Local variant (s.view n)
      (about n ((findAndRemovePendingConnect s k).2 ++ [(k, .established)]))
      (State.view { (findAndRemovePendingConnect s k).1.put k
          { s.pipes k with wsi := .opened } with
        service := if s.finds k then .established k .adopt else .idle } n) := by
  have away : s.service.role n = .away := by rw [idle]; rfl
  obtain ⟨only, _⟩ := search_scans s k n
  by_cases same : k = n
  · subst same
    cases finds : s.finds k with
    | false =>
        refine .stray handshaking ?_
        rintro ⟨member, connecting, stored⟩
        have found := finds_iff.mpr
          ⟨(view_connects s k).mp member, connecting, stored⟩
        simp [finds] at found
    | true =>
        obtain ⟨member, connecting, _⟩ := finds_iff.mp finds
        rw [if_pos rfl, found_view finds _ _ (.established .adopt)
          (by simp [Service.role]), about_append, about_cons_same]
        exact .established only ready away handshaking
          (by simpa using member) connecting
  · rw [about_append, about_cons_other same, about_nil, List.append_nil]
    apply found_other same _ idle
    cases s.finds k <;> simp [Service.role, same]

theorem connectionError_local {s : State} {k : Nat} (idle : s.service = .idle)
    (handshaking : (s.pipes k).wsi = .handshaking) (n : Nat) :
    Local variant (s.view n) (about n (findAndRemovePendingConnect s k).2)
      (State.view { (findAndRemovePendingConnect s k).1.put k
          { s.pipes k with wsi := .freed } with
        service := if s.finds k then .failing k .store .eventLoop
          else .idle } n) := by
  have away : s.service.role n = .away := by rw [idle]; rfl
  obtain ⟨only, _⟩ := search_scans s k n
  by_cases same : k = n
  · subst same
    cases finds : s.finds k with
    | false =>
        refine .stray handshaking ?_
        rintro ⟨member, connecting, stored⟩
        have found := finds_iff.mpr
          ⟨(view_connects s k).mp member, connecting, stored⟩
        simp [finds] at found
    | true =>
        obtain ⟨member, connecting, _⟩ := finds_iff.mp finds
        rw [if_pos rfl, found_view finds _ _ (.failing .store)
          (by simp [Service.role])]
        exact .connectionError only away handshaking (by simpa using member)
          connecting
  · apply found_other same _ idle
    cases s.finds k <;> simp [Service.role, same, Back.rest]

theorem closed_local {s : State} {k : Nat} (idle : s.service = .idle)
    (up : (s.pipes k).wsi = .opened ∨ (s.pipes k).wsi = .closing) (n : Nat) :
    Local variant (s.view n) (about n [(k, .closed)])
      (State.view { s.put k { s.pipes k with wsi := .freed } with
        service := if (s.pipes k).adopted then .closed k .gracefully
          else .idle } n) := by
  have away : s.service.role n = .away := by rw [idle]; rfl
  by_cases same : k = n
  · subst same
    rw [about_cons_same]
    cases adopted : (s.pipes k).adopted with
    | true =>
        have after : State.view { s.put k { s.pipes k with wsi := .freed } with
            service := if true = true then .closed k .gracefully
              else .idle } k =
            { s.view k with
              pipe := { s.pipes k with wsi := .freed }
              role := .closed .gracefully } := by
          apply view_eq <;> simp [Service.role]
        rw [after]
        exact .closes away up adopted
    | false =>
        have after : State.view { s.put k { s.pipes k with wsi := .freed } with
            service := if false = true then .closed k .gracefully
              else .idle } k =
            { s.view k with pipe := { s.pipes k with wsi := .freed } } := by
          apply view_eq <;> simp [Service.role, idle]
        rw [after]
        exact .closesStray away up adopted
  · apply Local.of_still (about_cons_other same _ _)
    apply view_eq
    · simp [put_pipes_other s same]
    · simp
    · simp
    · simp
    · simp
    · rw [view_role, away]
      split <;> simp [Service.role, same]

theorem deliver_local {s s' : State} {callback : Callback}
    {events : List Event} (idle : s.service = .idle)
    (ready : callback = .protocolInit ∨ s.vhost = true)
    (step : deliver s callback = some (s', events)) (n : Nat) :
    Local variant (s.view n) (about n events) (s'.view n) := by
  have away : s.service.role n = .away := by rw [idle]; rfl
  cases callback with
  | protocolInit =>
      simp only [deliver] at step
      cases step
      exact .protocolInit
  | eventWaitCancelled =>
      simp only [deliver] at step
      cases step
      exact pass_local (ready.resolve_left (by simp)) idle n
  | appendHandshakeHeader k =>
      simp only [deliver] at step
      split at step <;> cases step
      exact header_local n
  | established k =>
      simp only [deliver] at step
      split at step <;> cases step
      rename_i handshaking
      exact established_local (ready.resolve_left (by simp)) idle
        handshaking n
  | connectionError k =>
      simp only [deliver] at step
      split at step <;> cases step
      rename_i handshaking
      exact connectionError_local idle handshaking n
  | closed k =>
      simp only [deliver] at step
      split at step <;> cases step
      rename_i up
      exact closed_local idle up n
  | receive k text =>
      simp only [deliver] at step
      split at step <;> cases step
      rename_i opened
      cases adopted : (s.pipes k).adopted with
      | false => exact .of_still rfl rfl
      | true =>
          by_cases same : k = n
          · subst same
            rw [if_pos rfl, about_cons_same, about_cons_same]
            exact .receives away opened adopted
          · apply Local.of_still _ rfl
            simp [about_cons_other same]
  | writeable k =>
      simp only [deliver] at step
      split at step <;> cases step
      rename_i opened
      cases adopted : (s.pipes k).adopted with
      | false =>
          apply Local.of_still rfl
          apply view_eq <;> simp [Service.role, idle]
      | true =>
          by_cases same : k = n
          · subst same
            have after : State.view { s with
                service := if true = true then .writeable k .flag
                  else .idle } k =
                { s.view k with role := .writeable .flag } := by
              apply view_eq <;> simp [Service.role]
            rw [after]
            exact .becomesWriteable away opened adopted
          · apply Local.of_still rfl
            apply view_eq <;> simp [Service.role, idle, same]

/-- A step at `k` after which the service thread stands to every other pipe as
before. -/
theorem staged_put {s : State} {k : Nat} {happenings : List Happening}
    {pipe : Pipe} {service : Service} {role : Role}
    (runs : service.role k = role)
    (own : Local variant (s.view k) happenings
      { s.view k with pipe := pipe, role := role })
    (others : ∀ n, k ≠ n → service.role n = s.service.role n) (n : Nat) :
    Local variant (s.view n) (about n (happenings.map (k, ·)))
      (State.view { s.put k pipe with service := service } n) := by
  by_cases same : k = n
  · subst same
    have after : State.view { s.put k pipe with service := service } k =
        { s.view k with pipe := pipe, role := role } := by
      apply view_eq <;> simp [runs]
    rw [about_map_same, after]
    exact own
  · apply Local.of_still (about_map_other same _)
    apply view_eq <;> simp [put_pipes_other s same, others n same]

theorem staged {s : State} {k : Nat} {happenings : List Happening}
    {service : Service} {role : Role} (runs : service.role k = role)
    (own : Local variant (s.view k) happenings { s.view k with role := role })
    (others : ∀ n, k ≠ n → service.role n = s.service.role n) (n : Nat) :
    Local variant (s.view n) (about n (happenings.map (k, ·)))
      (State.view { s with service := service } n) := by
  have put : ({ s with service := service } : State) =
      { s.put k (s.pipes k) with service := service } := by
    simp only [State.put, Function.update_eq_self]
  rw [put]
  exact staged_put runs own others n

theorem staged_code {s : State} {k : Nat} {happenings : List Happening}
    {pipe : Pipe} {pending : Option Pending} {service : Service} {role : Role}
    (runs : service.role k = role)
    (own : Local variant (s.view k) happenings
      ({ s.view k with pipe := pipe, role := role }.push pending))
    (others : ∀ n, k ≠ n → service.role n = s.service.role n) (n : Nat) :
    Local variant (s.view n) (about n (happenings.map (k, ·)))
      (State.view { (s.put k pipe).push k pending with
        service := service } n) := by
  by_cases same : k = n
  · subst same
    have after : State.view { (s.put k pipe).push k pending with
          service := service } k =
        { s.view k with pipe := pipe, role := role }.push pending := by
      cases pending with
      | none => apply view_eq <;> simp [State.push, View.push, runs]
      | some pending =>
          cases pending <;> apply view_eq <;>
            simp [State.push, View.push, runs]
    rw [about_map_same, after]
    exact own
  · apply Local.of_still (about_map_other same _)
    cases pending with
    | none =>
        apply view_eq <;>
          simp [State.push, put_pipes_other s same, others n same]
    | some pending =>
        cases pending <;> apply view_eq <;>
          simp [State.push, put_pipes_other s same, others n same,
            Ne.symm same]

theorem about_scanEntry_other {s : State} {n k : Nat} (other : k ≠ n) :
    about n (scanEntry s k) = [] := by
  simp only [scanEntry]
  split <;> simp [about_cons_other other]

/-- A pass over one of the two lists, at a pipe. -/
theorem about_scanEntry (s : State) (n : Nat) (list : List Nat) :
    (∀ happening ∈ about n (list.flatMap (scanEntry s)),
        happening = .scanned ∨ happening = .dereferenced s.vhost) ∧
      ((s.pipes n).vhd = false →
        ∀ happening ∈ about n (list.flatMap (scanEntry s)),
          happening = .scanned) ∧
      (n ∉ list → about n (list.flatMap (scanEntry s)) = []) := by
  induction list with
  | nil => simp
  | cons k list ih =>
      obtain ⟨only, unset, absent⟩ := ih
      rw [List.flatMap_cons, about_append]
      by_cases same : k = n
      · subst same
        refine ⟨?_, ?_, fun missing => absurd List.mem_cons_self missing⟩
        · intro happening member
          rcases List.mem_append.mp member with first | later
          · cases vhd : (s.pipes k).vhd <;>
              simp [scanEntry, vhd] at first <;> simp [first]
          · exact only happening later
        · intro clear happening member
          rcases List.mem_append.mp member with first | later
          · simpa [scanEntry, clear] using first
          · exact unset clear happening later
      · rw [about_scanEntry_other same, List.nil_append]
        refine ⟨only, unset, fun missing => absent fun member => ?_⟩
        exact missing (List.mem_cons_of_mem _ member)

theorem takeDisconnects_local {s : State} (done : s.service = .connects [])
    (n : Nat) :
    Local variant (s.view n) (about n (takeDisconnects s).2)
      ((takeDisconnects s).1.view n) := by
  have away : s.service.role n = .away := by simp [done, Service.role]
  obtain ⟨only, unset, absent⟩ :=
    about_scanEntry s n s.pendingDisconnects
  by_cases member : n ∈ s.pendingDisconnects
  · have listed : (s.view n).listed .disconnects = true := by
      simpa [View.listed] using member
    cases vhd : (s.pipes n).vhd with
    | false =>
        have after : (takeDisconnects s).1.view n = s.view n := by
          apply view_eq <;>
            simp [takeDisconnects, vhd, Service.role, done]
        rw [after]
        exact .passedOver .disconnects (unset vhd) listed vhd
    | true =>
        by_cases wanted : (s.pipes n).state = .disconnecting
        · have after : (takeDisconnects s).1.view n =
              { (s.view n).unlist .disconnects with role := .loop } := by
            apply view_eq <;>
              simp [takeDisconnects, View.unlist, vhd, member, wanted,
                Service.role]
          rw [after]
          exact .taken .disconnects only away listed vhd wanted
        · have after : (takeDisconnects s).1.view n =
              (s.view n).unlist .disconnects := by
            apply view_eq <;>
              simp [takeDisconnects, View.unlist, vhd, wanted, Service.role,
                done]
          rw [after]
          exact .dropped .disconnects only listed vhd
  · apply Local.of_still (absent member)
    apply view_eq <;> simp [takeDisconnects, member, Service.role, done]

theorem takeWrites_local {s : State} (done : s.service = .disconnects [])
    (n : Nat) :
    Local variant (s.view n) (about n (takeWrites s).2)
      ((takeWrites s).1.view n) := by
  have away : s.service.role n = .away := by simp [done, Service.role]
  obtain ⟨only, unset, absent⟩ :=
    about_scanEntry s n s.pendingWrites
  by_cases member : n ∈ s.pendingWrites
  · have listed : (s.view n).listed .writes = true := by
      simpa [View.listed] using member
    cases vhd : (s.pipes n).vhd with
    | false =>
        have after : (takeWrites s).1.view n = s.view n := by
          apply view_eq <;> simp [takeWrites, vhd, Service.role, done]
        rw [after]
        exact .passedOver .writes (unset vhd) listed vhd
    | true =>
        by_cases wanted : (s.pipes n).state = .connected
        · have after : (takeWrites s).1.view n =
              { (s.view n).unlist .writes with role := .loop } := by
            apply view_eq <;>
              simp [takeWrites, View.unlist, vhd, member, wanted,
                Service.role]
          rw [after]
          exact .taken .writes only away listed vhd wanted
        · have after : (takeWrites s).1.view n =
              (s.view n).unlist .writes := by
            apply view_eq <;>
              simp [takeWrites, View.unlist, vhd, wanted, Service.role, done]
          rw [after]
          exact .dropped .writes only listed vhd
  · apply Local.of_still (absent member)
    apply view_eq <;> simp [takeWrites, member, Service.role, done]

theorem role_connects_other {n k : Nat} (other : k ≠ n) (list : List Nat) :
    Service.role n (.connects (k :: list)) =
      Service.role n (.connects list) := by
  simp [Service.role, Ne.symm other]

/-- The pipe during a call of `lws_client_connect_via_info` that has not stored
a wsi. -/
def State.calling (s : State) (n : Nat) : State :=
  s.put n { s.pipes n with
    state := .connecting, vhd := s.vhost, pwsi := false }

/-- The call delivers CONNECTION_ERROR for a wsi it has not stored: the search
finds no pipe for it. -/
theorem connectClient_error (s : State) (k : Nat) (list : List Nat) :
    (s.calling k).finds k = false ∧
      connectClient s k list (.error false) =
        ({ (findAndRemovePendingConnect (s.calling k) k).1 with
            service := .connectNull k list },
          [(k, .touched), (k, .dereferenced s.vhost)] ++
            (findAndRemovePendingConnect (s.calling k) k).2) := by
  have unfound : (s.calling k).finds k = false := by
    cases finds : (s.calling k).finds k with
    | false => rfl
    | true =>
        have stored := (finds_iff.mp finds).2.2
        simp [State.calling] at stored
  refine ⟨unfound, ?_⟩
  simp only [State.calling] at unfound
  simp only [connectClient, unfound]
  rfl

theorem connectClient_errs {s : State} {k : Nat} {list : List Nat}
    (running : s.service = .connects (k :: list))
    (others : ∀ n, k ≠ n →
      Service.role n (.connects list) = s.service.role n) (n : Nat) :
    Local variant (s.view n)
      (about n (connectClient s k list (.error false)).2)
      ((connectClient s k list (.error false)).1.view n) := by
  obtain ⟨unfound, outcome⟩ := connectClient_error s k list
  obtain ⟨calling, called⟩ : ∃ calling, calling = s.calling k := ⟨_, rfl⟩
  rw [← called] at unfound outcome
  have pipe : calling.pipes k = { s.pipes k with
      state := .connecting, vhd := s.vhost, pwsi := false } := by
    rw [called, State.calling, put_pipes_same]
  obtain ⟨connects, disconnects, writes, vhost, _⟩ :
      calling.pendingConnects = s.pendingConnects ∧
        calling.pendingDisconnects = s.pendingDisconnects ∧
        calling.pendingWrites = s.pendingWrites ∧ calling.vhost = s.vhost ∧
        calling.service = s.service := by
    rw [called]
    exact put_fields ..
  rw [outcome]
  by_cases same : k = n
  · subst same
    obtain ⟨only, listed⟩ := search_scans calling k k
    have kept : k ∉ calling.toRemove k := by
      simp [State.toRemove, pipe]
    have after : State.view { (findAndRemovePendingConnect calling k).1 with
          service := .connectNull k list } k =
        { s.view k with
          pipe := { s.pipes k with
            state := .connecting, vhd := s.vhost, pwsi := false }
          role := .connectNull } := by
      apply view_eq <;>
        simp [findAndRemovePendingConnect, unfound, kept, pipe, connects,
          disconnects, writes, vhost, Service.role]
    rw [about_append, after, about_cons_same, about_cons_same]
    refine .dialErrors only ?_ ?_
    · simp [running, Service.role]
    · intro some
      have member := (view_connects calling k).mp (listed some)
      rw [connects] at member
      exact (view_connects s k).mpr member
  · have before : calling.view n = s.view n := by
      rw [called]
      exact view_put_other s same _
    have after : State.view { (findAndRemovePendingConnect calling k).1 with
          service := .connectNull k list } n =
        (findAndRemovePendingConnect calling k).1.view n := by
      apply view_eq <;> simp [findAndRemovePendingConnect, called,
        State.calling]
      rw [← others n same]
      simp [Service.role, same]
    rw [about_append, about_cons_other same, about_cons_other same,
      about_nil, List.nil_append, after, ← before]
    exact search_other same

theorem connectClient_local {s : State} {k : Nat} {list : List Nat}
    {outcome : Outcome} (running : s.service = .connects (k :: list))
    (tidy : k ∉ list) (once : outcome ≠ .error true) (n : Nat) :
    Local variant (s.view n) (about n (connectClient s k list outcome).2)
      ((connectClient s k list outcome).1.view n) := by
  have picked : s.service.role k = .picked := by simp [running, Service.role]
  have others : ∀ n, k ≠ n →
      Service.role n (.connects list) = s.service.role n := by
    intro n other
    rw [running, role_connects_other other]
  cases outcome with
  | returned =>
      have left : Service.role k (.connects list) = .away := by
        simp [Service.role, tidy]
      exact staged_put left (.dials picked) others n
  | null =>
      have failing : Service.role k (.failing k .store (.pass list)) =
          .failing .store := by simp [Service.role]
      refine staged_put failing (.dialFails picked) ?_ n
      intro n other
      rw [← others n other]
      simp only [Service.role, if_neg other]
      rfl
  | error stored =>
      cases stored with
      | true => exact absurd rfl once
      | false =>
          exact connectClient_errs running others n

/-- The two copies of ESTABLISHED differ in the intents they complete. -/
theorem serveEstablished_local {s : State} {k : Nat} {ok : Bool}
    {metadata : Option Nat} {stage : Established}
    (running : s.service = .established k stage) (n : Nat) :
    Local variant (s.view n)
      (about n (serveEstablished variant s k ok metadata stage).2)
      ((serveEstablished variant s k ok metadata stage).1.view n) := by
  have role : (s.view k).role = .established stage := by
    simp [running, Service.role]
  have at_k : ∀ {stage : Established},
      Service.role k (.established k stage) = .established stage := by
    intro stage
    simp [Service.role]
  have others : ∀ {stage : Established} n, k ≠ n →
      Service.role n (.established k stage) = s.service.role n := by
    intro stage n other
    simp [running, Service.role, other]
  cases stage with
  | adopt =>
      cases variant with
      | audioFork => exact staged_put at_k (.connected role (.inl rfl)) others n
      | deepgram => exact staged_put at_k (.connected role (.inr rfl)) others n
  | close =>
      simp only [serveEstablished]
      split
      · exact staged at_k (.completes role (.inl rfl) (.inl rfl)) others n
      · exact staged at_k (.completes role (.inl rfl) (.inr (.inl rfl)))
          others n
  | graceful =>
      simp only [serveEstablished]
      split
      · exact staged at_k
          (.completes role (.inr rfl) (.inr (.inr (.inl rfl)))) others n
      · exact staged at_k
          (.completes role (.inr rfl) (.inr (.inr (.inr rfl)))) others n
  | closing code =>
      obtain ⟨pipe, next, pending, happenings, runs, ran⟩ :=
        runCode_cases variant s k ok code fun pipe _ => pipe
      simp only [serveEstablished, ran]
      cases next with
      | none =>
          exact staged_code at_k (.establishedAdvances role (.inl rfl) runs
            (.inr (.inl rfl))) others n
      | some code' =>
          exact staged_code at_k (.establishedAdvances role (.inl rfl) runs
            (.inl ⟨code', rfl, .inl rfl⟩)) others n
  | shutdown code =>
      obtain ⟨pipe, next, pending, happenings, runs, ran⟩ :=
        runCode_cases variant s k ok code fun pipe _ => pipe
      simp only [serveEstablished, ran]
      cases next with
      | none =>
          exact staged_code at_k (.establishedAdvances role (.inr rfl) runs
            (.inr (.inr rfl))) others n
      | some code' =>
          exact staged_code at_k (.establishedAdvances role (.inr rfl) runs
            (.inl ⟨code', rfl, .inr rfl⟩)) others n
  | notify =>
      have gone : ∀ {service : Service}, service.role k = .away →
          (∀ n, k ≠ n → service.role n = s.service.role n) →
          Local variant (s.view n)
            (about n [(k, .touched), (k, .notified .connectSuccess)])
            (State.view { s with service := service } n) :=
        fun left others => staged left (.announces role) others n
      simp only [serveEstablished]
      split
      all_goals
        apply gone rfl
        intro n other
        simp [running, Service.role, other]

theorem metadata_local {s s' : State} {k : Nat} {ok : Bool} {code : Code}
    {outcome : Outcome} {metadata : Option Nat} {events : List Event}
    (running : s.service = .metadata k code)
    (step : serve variant s outcome ok metadata = some (s', events))
    (n : Nat) : Local variant (s.view n) (about n events) (s'.view n) := by
  have role : (s.view k).role = .metadata code := by
    simp [running, Service.role]
  obtain ⟨pipe, next, pending, happenings, runs, ran⟩ :=
    runCode_cases variant s k ok code fun pipe next =>
      { pipe with owner := next.elim (.session none) fun _ => .callback }
  simp only [serve, running, ran] at step
  cases step
  have own := Local.borrows role runs
  cases next with
  | none =>
      have left : Service.role k .idle = .away := rfl
      refine staged_code left own ?_ n
      intro n other
      simp [running, Service.role, other]
  | some code' =>
      have stays : Service.role k (.metadata k code') = .metadata code' := by
        simp [Service.role]
      refine staged_code stays own ?_ n
      intro n other
      simp [running, Service.role, other]

theorem serveClosed_local {s : State} {k : Nat} {stage : Closed}
    (running : s.service = .closed k stage) (n : Nat) :
    Local variant (s.view n) (about n (serveClosed s k stage).2)
      ((serveClosed s k stage).1.view n) := by
  have role : (s.view k).role = .closed stage := by
    simp [running, Service.role]
  have at_k : ∀ {stage : Closed},
      Service.role k (.closed k stage) = .closed stage := by
    intro stage
    simp [Service.role]
  have others : ∀ {stage : Closed} n, k ≠ n →
      Service.role n (.closed k stage) = s.service.role n := by
    intro stage n other
    simp [running, Service.role, other]
  cases stage with
  | gracefully =>
      simp only [serveClosed]
      split
      · exact staged at_k (.endTold role (.inl rfl) (by simp) rfl) others n
      · exact staged at_k (.endChecked role (.inl rfl) (.inl rfl)) others n
  | dropped =>
      simp only [serveClosed]
      split
      · exact staged at_k (.endTold role (.inr rfl) (by simp) rfl) others n
      · exact staged at_k (.endChecked role (.inr rfl) (.inr rfl)) others n
  | store => exact staged_put at_k (.endStored role) others n
  | signal =>
      have left : Service.role k .idle = .away := rfl
      refine staged_put left (.endSignaled role) ?_ n
      intro n other
      simp [running, Service.role, other]

theorem writeable_local {s : State} {k : Nat} {ok : Bool} {stage : Writeable}
    (running : s.service = .writeable k stage) (n : Nat) :
    Local variant (s.view n) (about n (serveWriteable variant s k ok stage).2)
      ((serveWriteable variant s k ok stage).1.view n) := by
  have role : (s.view k).role = .writeable stage := by
    simp [running, Service.role]
  have at_k : ∀ {stage : Writeable},
      Service.role k (.writeable k stage) = .writeable stage := by
    intro stage
    simp [Service.role]
  have others : ∀ {stage : Writeable} n, k ≠ n →
      Service.role n (.writeable k stage) = s.service.role n := by
    intro stage n other
    simp [running, Service.role, other]
  have idle : ∀ n, k ≠ n → Service.role n .idle = s.service.role n := by
    intro n other
    simp [running, Service.role, other]
  have left : Service.role k .idle = .away := rfl
  have touched : [Happening.touched] = [.touched] ∨
      [Happening.touched] = [.touched, .requestedWritable] := .inl rfl
  cases stage with
  | flag =>
      simp only [serveWriteable]
      split
      · refine staged_put left (.writes role (.inl rfl) touched ?_) idle n
        cases ok
        · exact .inr rfl
        · exact .inl rfl
      · exact staged at_k (.writes role (.inr ⟨_, rfl⟩) touched (.inl rfl))
          others n
  | text =>
      simp only [serveWriteable]
      split
      · split
        · exact staged_put left
            (.writes role (.inl rfl) (.inr rfl) (.inl rfl)) idle n
        · exact staged_put left
            (.writes role (.inl rfl) touched (.inr rfl)) idle n
      · exact staged at_k (.writes role (.inr ⟨_, rfl⟩) touched (.inl rfl))
          others n
  | state =>
      simp only [serveWriteable]
      split
      · exact staged_put left
          (.writes role (.inl rfl) touched (.inr rfl)) idle n
      · exact staged at_k (.writes role (.inr ⟨_, rfl⟩) touched (.inl rfl))
          others n
  | audio =>
      exact staged_put left
        (.writes role (.inl rfl) touched (.inl rfl)) idle n

theorem local_of_some {s s' : State} {n : Nat} {events : List Event}
    {result : State × List Event}
    (holds : Local variant (s.view n) (about n result.2) (result.1.view n))
    (step : some result = some (s', events)) :
    Local variant (s.view n) (about n events) (s'.view n) := by
  cases step
  exact holds

/-- The first of a loop's list, which may be in the rest of it again. -/
theorem request_role (k : Nat) (list : List Nat) :
    (if k ∈ list then Role.loop else .away) = .loop ∨
      (if k ∈ list then Role.loop else .away) = .away := by
  split
  · exact .inl rfl
  · exact .inr rfl

theorem serve_local {s s' : State} {outcome : Outcome} {ok : Bool}
    {metadata : Option Nat} {events : List Event} (tidy : s.service.Tidy)
    (admitted : reportedOnce s (.serve outcome ok metadata) = true)
    (step : serve variant s outcome ok metadata = some (s', events))
    (n : Nat) : Local variant (s.view n) (about n events) (s'.view n) := by
  cases running : s.service with
  | idle => simp [serve, running] at step
  | connects list =>
      cases list with
      | nil =>
          simp only [serve, running] at step
          cases step
          exact takeDisconnects_local running n
      | cons k list =>
          simp only [serve, running] at step
          rw [running] at tidy
          have absent : k ∉ list := (List.nodup_cons.mp tidy).1
          refine local_of_some (connectClient_local running absent ?_ n) step
          rintro rfl
          simp [reportedOnce, running] at admitted
  | connectNull k list =>
      simp only [serve, running] at step
      cases step
      have role : (s.view k).role = .connectNull := by
        simp [running, Service.role]
      have stays : Service.role k (.failing k .store (.pass list)) =
          .failing .store := by simp [Service.role]
      refine staged_put stays (.connectNull role) ?_ n
      intro n other
      simp only [running, Service.role, if_neg other]
      rfl
  | failing k stage back =>
      rw [running] at tidy
      have role : (s.view k).role = .failing stage := by
        simp [running, Service.role]
      have at_k : ∀ {stage : FailStage},
          Service.role k (.failing k stage back) = .failing stage := by
        intro stage
        simp [Service.role]
      have others : ∀ {stage : FailStage} n, k ≠ n →
          Service.role n (.failing k stage back) = s.service.role n := by
        intro stage n other
        simp only [running, Service.role, if_neg other]
      cases stage with
      | store =>
          simp only [serve, running] at step
          cases step
          exact staged_put at_k (.failureStored role) others n
      | notify =>
          simp only [serve, running] at step
          cases step
          exact staged at_k (.failureNotified role) others n
      | signal =>
          simp only [serve, running] at step
          cases step
          obtain ⟨absent, _, outside⟩ := tidy
          have left : Service.role k (back.resume k) = .away := by
            cases back with
            | eventLoop => rfl
            | call list => exact absurd rfl (outside list)
            | pass list =>
                simp only [Back.rest] at absent
                simp [Back.resume, Service.role, absent]
          refine staged_put left (.failureSignaled role) ?_ n
          intro n other
          have before : s.service.role n =
              if n ∈ back.rest then .picked else .away := by
            simp only [running, Service.role, if_neg other]
          rw [before]
          cases back with
          | eventLoop => rfl
          | call list => exact absurd rfl (outside list)
          | pass list => rfl
  | disconnects list =>
      cases list with
      | nil =>
          simp only [serve, running] at step
          cases step
          exact takeWrites_local running n
      | cons k list =>
          simp only [serve, running] at step
          cases step
          have role : (s.view k).role = .loop := by
            simp [running, Service.role]
          have stays : Service.role k (.disconnects list) =
              if k ∈ list then .loop else .away := rfl
          refine staged stays (.requests role (request_role k list)) ?_ n
          intro n other
          simp [running, Service.role, Ne.symm other]
  | writes list =>
      cases list with
      | nil =>
          simp only [serve, running] at step
          cases step
          apply Local.of_still rfl
          apply view_eq <;> simp [running, Service.role]
      | cons k list =>
          simp only [serve, running] at step
          cases step
          have role : (s.view k).role = .loop := by
            simp [running, Service.role]
          have stays : Service.role k (.writes list) =
              if k ∈ list then .loop else .away := rfl
          refine staged stays (.requests role (request_role k list)) ?_ n
          intro n other
          simp [running, Service.role, Ne.symm other]
  | established k stage =>
      simp only [serve, running] at step
      exact local_of_some (serveEstablished_local running n) step
  | eventCallback k =>
      simp only [serve, running] at step
      split at step
      · rename_i free
        cases step
        have away : (s.view k).role = .away := by
          simp [running, Service.role]
        have stays : Service.role k (.metadata k .bufferCheck) =
            .metadata .bufferCheck := by simp [Service.role]
        refine staged_put stays (.locks away free) ?_ n
        intro n other
        simp [running, Service.role, other]
      · cases step
      · cases step
      · cases step
        apply Local.of_still rfl
        apply view_eq <;> simp [running, Service.role]
  | metadata k code => exact metadata_local running step n
  | closed k stage =>
      simp only [serve, running] at step
      exact local_of_some (serveClosed_local running n) step
  | writeable k stage =>
      simp only [serve, running] at step
      exact local_of_some (writeable_local running n) step

theorem step_local {s s' : State} {act : Act} {events : List Event}
    (tidy : s.service.Tidy) (admitted : reportedOnce s act = true)
    (taken : step variant s act = some (s', events)) (n : Nat) :
    Local variant (s.view n) (about n events) (s'.view n) := by
  cases act with
  | connect k ok => exact connect_local taken n
  | enter k op =>
      simp only [step] at taken
      split at taken
      · rename_i code free entry
        cases taken
        by_cases same : k = n
        · subst same
          rw [view_put_same]
          exact .calls free entry
        · exact .of_still rfl (view_put_other s same _)
      · cases taken
  | advance k ok => exact call_local taken n
  | reap k =>
      simp only [step] at taken
      split at taken
      · rename_i free
        cases taken
        by_cases same : k = n
        · subst same
          rw [view_put_same]
          exact .reaped free
        · exact .of_still rfl (view_put_other s same _)
      · cases taken
      · cases taken
      · cases taken
  | reaper k ok => exact reaper_local taken n
  | deliver callback =>
      simp only [step] at taken
      split at taken
      · rename_i ready
        exact deliver_local ready.1 ready.2 taken n
      · cases taken
  | serve outcome ok metadata => exact serve_local tidy admitted taken n

theorem tidy_of_some {s' : State} {events : List Event}
    {result : State × List Event} (tidy : result.1.service.Tidy)
    (step : some result = some (s', events)) : s'.service.Tidy := by
  cases step
  exact tidy

@[simp] theorem push_service (s : State) (n : Nat)
    (pending : Option Pending) :
    (s.push n pending).service = s.service := by
  cases pending with
  | none => rfl
  | some pending => cases pending <;> rfl

theorem tidy_of_serve {s s' : State} {outcome : Outcome} {ok : Bool}
    {metadata : Option Nat} {events : List Event} (tidy : s.service.Tidy)
    (admitted : reportedOnce s (.serve outcome ok metadata) = true)
    (step : serve variant s outcome ok metadata = some (s', events)) :
    s'.service.Tidy := by
  cases running : s.service with
  | idle => simp [serve, running] at step
  | connects list =>
      cases list with
      | nil =>
          simp only [serve, running] at step
          cases step
          trivial
      | cons k list =>
          rw [running] at tidy
          obtain ⟨absent, nodup⟩ := List.nodup_cons.mp tidy
          simp only [serve, running] at step
          cases outcome with
          | returned =>
              cases step
              exact nodup
          | null =>
              cases step
              exact ⟨absent, nodup, by simp⟩
          | error stored =>
              cases stored with
              | true => simp [reportedOnce, running] at admitted
              | false =>
                  rw [(connectClient_error s k list).2] at step
                  cases step
                  exact ⟨absent, nodup⟩
  | connectNull k list =>
      rw [running] at tidy
      simp only [serve, running] at step
      cases step
      exact ⟨tidy.1, tidy.2, by simp⟩
  | failing k stage back =>
      rw [running] at tidy
      cases stage with
      | store | notify =>
          simp only [serve, running] at step
          cases step
          exact tidy
      | signal =>
          simp only [serve, running] at step
          cases step
          obtain ⟨_, nodup, outside⟩ := tidy
          cases back with
          | eventLoop => trivial
          | call list => exact absurd rfl (outside list)
          | pass list => exact nodup
  | disconnects list | writes list =>
      cases list with
      | nil =>
          simp only [serve, running] at step
          cases step
          trivial
      | cons k list =>
          simp only [serve, running] at step
          cases step
          trivial
  | established k stage =>
      simp only [serve, running] at step
      have tidy : (serveEstablished variant s k ok metadata stage).1
          |>.service.Tidy := by
        cases stage with
        | notify =>
            simp only [serveEstablished]
            split <;> trivial
        | _ => trivial
      exact tidy_of_some tidy step
  | eventCallback k =>
      simp only [serve, running] at step
      split at step <;> cases step <;> trivial
  | metadata k code =>
      obtain ⟨pipe, next, pending, happenings, _, ran⟩ :=
        runCode_cases variant s k ok code fun pipe next =>
          { pipe with owner := next.elim (.session none) fun _ => .callback }
      simp only [serve, running, ran] at step
      cases step
      cases next <;> trivial
  | closed k stage =>
      simp only [serve, running] at step
      have tidy : (serveClosed s k stage).1.service.Tidy := by
        cases stage with
        | gracefully | dropped =>
            simp only [serveClosed]
            split <;> trivial
        | store | signal => trivial
      exact tidy_of_some tidy step
  | writeable k stage =>
      simp only [serve, running] at step
      have tidy : (serveWriteable variant s k ok stage).1.service.Tidy := by
        cases stage with
        | flag | state =>
            simp only [serveWriteable]
            split <;> trivial
        | text =>
            simp only [serveWriteable]
            split
            · split <;> trivial
            · trivial
        | audio => trivial
      exact tidy_of_some tidy step

theorem Service.Tidy.step {s s' : State} {act : Act} {events : List Event}
    (tidy : s.service.Tidy) (admitted : reportedOnce s act = true)
    (taken : Pipes.step variant s act = some (s', events)) :
    s'.service.Tidy := by
  cases act with
  | connect k ok =>
      simp only [Pipes.step, stepConnect] at taken
      split at taken
      · split at taken <;> cases taken <;> exact tidy
      · split at taken <;> cases taken <;> exact tidy
      all_goals cases taken <;> exact tidy
  | enter k op =>
      simp only [Pipes.step] at taken
      split at taken <;> cases taken
      exact tidy
  | advance k ok =>
      simp only [Pipes.step, stepCall] at taken
      split at taken
      · rename_i code call
        obtain ⟨pipe, next, pending, happenings, _, ran⟩ :=
          runCode_cases variant s k ok code
            fun pipe next => { pipe with owner := .session next }
        rw [ran] at taken
        cases taken
        rw [push_service]
        exact tidy
      · cases taken
      · cases taken
      · cases taken
  | reap k =>
      simp only [Pipes.step] at taken
      split at taken <;> cases taken
      exact tidy
  | reaper k ok =>
      simp only [Pipes.step, stepReaper] at taken
      split at taken
      · cases taken
      · cases taken
      · rename_i code closing
        obtain ⟨pipe, next, pending, happenings, _, ran⟩ :=
          runCode_cases variant s k ok code fun pipe next =>
            { pipe with owner := .reaper (next.elim .waiting .closing) }
        rw [ran] at taken
        cases taken
        rw [push_service]
        exact tidy
      · split at taken <;> cases taken
        exact tidy
      all_goals cases taken <;> exact tidy
  | deliver callback =>
      simp only [Pipes.step] at taken
      split at taken
      · rename_i ready
        cases callback with
        | protocolInit =>
            simp only [deliver] at taken
            cases taken
            exact tidy
        | eventWaitCancelled =>
            simp only [deliver] at taken
            cases taken
            exact adoptIdle_nodup
        | appendHandshakeHeader k =>
            simp only [deliver] at taken
            split at taken <;> cases taken
            exact tidy
        | established k =>
            simp only [deliver] at taken
            split at taken <;> cases taken
            cases s.finds k <;> trivial
        | connectionError k =>
            simp only [deliver] at taken
            split at taken <;> cases taken
            cases s.finds k with
            | false => trivial
            | true => exact ⟨by simp [Back.rest], List.nodup_nil, by simp⟩
        | closed k =>
            simp only [deliver] at taken
            split at taken <;> cases taken
            cases (s.pipes k).adopted <;> trivial
        | receive k text =>
            simp only [deliver] at taken
            split at taken <;> cases taken
            exact tidy
        | writeable k =>
            simp only [deliver] at taken
            split at taken <;> cases taken
            cases (s.pipes k).adopted <;> trivial
      · cases taken
  | serve outcome ok metadata => exact tidy_of_serve tidy admitted taken

end DrachtioModules.Pipes
