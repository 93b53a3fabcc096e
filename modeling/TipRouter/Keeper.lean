import TipRouter.Cranks

/-! The loop of the keeper, `run_keeper` of `cli/src/keeper/keeper_loop.rs`, with the state that
it keeps of one epoch (`keeper_state.rs`). Every round it settles on an epoch, reads how far that
epoch is and runs the crank of its phase. Any request may fail; then the round ends where it is
and the next one begins with what the loop has by then. -/
namespace TipRouter
open Clients Runs

inductive KeeperError where
  | request
  | account (failure : CliError)
  | epochStateNotFound
  | currentStateNotFound
  | program (failure : TipRouterError)

/-- What the keeper asks an RPC node while it brings its state up to date. -/
inductive KeeperRequest where
  | epochMarker | epochState | epochInfo | epochSchedule | config | weightTable
  deriving DecidableEq

/-- Which requests are answered, and the accounts of each epoch as a request finds them. -/
structure Answers where
  answered : KeeperRequest → Bool
  accounts : KeeperRequest → ℕ → EpochAccounts
  currentSlot : ℕ
  getEpoch : ℕ → ℕ
  config : Config

namespace Answers

variable (answers : Answers)

def ask {α : Type} (request : KeeperRequest) (answer : α) : Except KeeperError α :=
  if answers.answered request then .ok answer else .error .request

/-- The account at an address of some epoch. Before the first `fetch` the addresses are the
default one, where the system program is with its 14 bytes. -/
def account {α : Type} (request : KeeperRequest) (field : EpochAccounts → Account α) :
    Option ℕ → Account α
  | some epoch => field (answers.accounts request epoch)
  | none => .allocated 14

/-- The phase that `update_current_state` works out. -/
def phase (address : Option ℕ) (epochState : EpochState) : Except KeeperError EpochState.Phase :=
  if 0 < epochState.setWeightProgress.tally then do
    let account ← answers.ask .weightTable (answers.account .weightTable (·.weightTable) address)
    let weightTable ← account.found.mapError .account
    (epochState.currentStatePatched answers.getEpoch answers.config.validSlotsAfterConsensus
      answers.config.epochsAfterConsensusBeforeClose weightTable.stMintCount
      answers.currentSlot).mapError .program
  else
    (epochState.currentState answers.getEpoch answers.config.validSlotsAfterConsensus
      answers.config.epochsAfterConsensusBeforeClose answers.currentSlot).mapError .program

end Answers

/-- `KeeperState`. Of the addresses it has the epoch that they are for. -/
structure KeeperState where
  epoch : ℕ
  addressEpoch : Option ℕ
  epochState : Option EpochState
  currentState : Option EpochState.Phase
  isEpochCompleted : Bool

namespace KeeperState

def default : KeeperState := ⟨0, none, none, none, false⟩

/-- The functions that change the state keep what they have done by the time they fail. -/
abbrev Program := Client KeeperState KeeperError

def updateCurrentState (answers : Answers) : Program Unit := do
  Client.ofExcept (answers.ask .epochInfo ())
  Client.ofExcept (answers.ask .epochSchedule ())
  Client.ofExcept (answers.ask .config ())
  let self ← Client.get
  let epochState ← Client.ofExcept (self.epochState.elim (.error .epochStateNotFound) .ok)
  let phase ← Client.ofExcept (answers.phase self.addressEpoch epochState)
  Client.modify fun self => { self with currentState := some phase }

/-- `update_epoch_state` where the epoch is not completed. -/
def readEpochState (answers : Answers) : Program Unit := do
  let self ← Client.get
  let account ← Client.ofExcept
    (answers.ask .epochState (answers.account .epochState (·.epochState) self.addressEpoch))
  if account.isShort EpochState.size then
    Client.modify fun self => { self with epochState := none }
  else do
    let epochState ← Client.ofExcept (account.found.mapError .account)
    Client.modify fun self => { self with epochState := some epochState }
    updateCurrentState answers

def updateEpochState (answers : Answers) : Program Unit := do
  let self ← Client.get
  let isEpochCompleted ← Client.ofExcept
    (answers.ask .epochMarker (answers.accounts .epochMarker self.epoch).epochMarker)
  Client.modify fun self => { self with isEpochCompleted }
  if isEpochCompleted then pure () else readEpochState answers

/-- Puts down the addresses of an epoch. The epoch itself is put down last: until then
`update_epoch_state` asks whether the epoch before is completed. -/
def fetch (lists : Except KeeperError Unit) (answers : Answers) (epoch : ℕ) : Program Unit := do
  Client.ofExcept lists
  Client.modify fun self => { self with addressEpoch := some epoch }
  updateEpochState answers
  Client.modify fun self => { self with epoch }

def detectStall (totalRewardsToBeDistributed : Except KeeperError ℕ) : Program Bool := do
  let self ← Client.get
  let currentState ← Client.ofExcept (self.currentState.elim (.error .currentStateNotFound) .ok)
  match currentState with
  | .vote => pure true
  | .distribute => do
    let total ← Client.ofExcept totalRewardsToBeDistributed
    pure (decide (total < 10000))
  | _ => pure false

end KeeperState

/-- What a round of the loop meets: the epoch of the chain, how registering vaults and listing
vaults and operators go, what `fetch` and the update after it read, how the crank of each phase
ends and the rewards that are left. -/
structure KeeperRound where
  currentEpoch : ℕ
  registerVaults : Except KeeperError Unit
  lists : Except KeeperError Unit
  fetched : Answers
  updated : Answers
  crank : EpochState.Phase → Except KeeperError Unit
  totalRewardsToBeDistributed : Except KeeperError ℕ

/-- The variables of `run_keeper`, and which crank the last round ran for which epoch. -/
structure KeeperLoop where
  state : KeeperState
  epochStall : Bool
  currentEpoch : ℕ
  lastCurrentEpoch : ℕ
  cranked : Option (ℕ × EpochState.Phase)

def progressEpoch (currentEpoch : ℕ) (isEpochCompleted : Bool)
    (startingEpoch lastCurrentEpoch keeperEpoch : ℕ) (epochStall : Bool) : ℕ :=
  if lastCurrentEpoch < currentEpoch then currentEpoch
  else if isEpochCompleted || epochStall then
    if keeperEpoch = currentEpoch then startingEpoch else keeperEpoch + 1
  else keeperEpoch

/-! ## What an update reads -/

theorem Answers.ask_eq_ok {answers : Answers} {α : Type} {request : KeeperRequest}
    {answer result : α} (ok : answers.ask request answer = .ok result) : result = answer := by
  unfold Answers.ask at ok
  split at ok
  · exact (Except.ok.inj ok).symm
  · cases ok

theorem Account.found_eq_ok {α : Type} {account : Account α} {data : α}
    (found : account.found = .ok data) : account = .ready data := by
  cases account with
  | missing => cases found
  | allocated dataLen => cases found
  | ready value => rw [Except.ok.inj found]

namespace KeeperState

variable {answers : Answers} {before self : KeeperState}

/-- The epoch has not been completed and its epoch state, from the address at hand, is in this
phase. -/
structure InPhase (state : KeeperState) (answers : Answers) (phase : EpochState.Phase) : Prop where
  incomplete : (answers.accounts .epochMarker state.epoch).epochMarker = false
  current : ∃ epochState,
    answers.account .epochState (·.epochState) state.addressEpoch = .ready epochState ∧
      answers.phase state.addressEpoch epochState = .ok phase
  goesOn : (state.isEpochCompleted || state.epochState.isNone) = false
  found : state.currentState = some phase

/-- The epoch has been completed or, at the address at hand, is no epoch state yet. -/
def NothingToDo (self : KeeperState) (answers : Answers) : Prop :=
  (answers.accounts .epochMarker self.epoch).epochMarker = true ∨
    (answers.account .epochState (·.epochState) self.addressEpoch).isShort EpochState.size = true

/-- What an update leaves where it does not fail. -/
def Updated (self : KeeperState) (answers : Answers) : Prop :=
  ((self.isEpochCompleted || self.epochState.isNone) = true ∧ self.NothingToDo answers) ∨
    ∃ phase, self.InPhase answers phase

/-- An update is about one epoch. -/
def SameEpoch (before self : KeeperState) : Prop :=
  self.epoch = before.epoch ∧ self.addressEpoch = before.addressEpoch

theorem updateCurrentState_triple {epochState : EpochState}
    (there : before.epochState = some epochState) :
    Triple (· = before) (updateCurrentState answers)
      (fun _ self => ∃ phase, answers.phase before.addressEpoch epochState = .ok phase ∧
        self = { before with currentState := some phase })
      (· = before) := by
  refine Triple.bind (Keeps.ofExcept _) fun _ => ?_
  refine Triple.bind (Keeps.ofExcept _) fun _ => ?_
  refine Triple.bind (Keeps.ofExcept _) fun _ => ?_
  refine Triple.get_bind fun self same => ?_
  subst same
  have stated : self.epochState.elim (.error .epochStateNotFound) .ok =
      (.ok epochState : Except KeeperError EpochState) := by
    rw [there]
    rfl
  rw [stated]
  have current : Triple (· = self) (Client.ofExcept (answers.phase self.addressEpoch epochState))
      (fun phase later => answers.phase self.addressEpoch epochState = .ok phase ∧ later = self)
      (· = self) :=
    Triple.ofExcept (fun phase found later same => ⟨found, same⟩) fun _ same => same
  refine (current.bind fun phase => Triple.modify ?_) self rfl
  rintro later ⟨found, rfl⟩
  exact ⟨phase, found, rfl⟩

/-- Only an unanswered request ends what asks it. -/
theorem ask_triple {α : Type} {request : KeeperRequest} {answer : α} :
    Triple (· = before) (Client.ofExcept (answers.ask request answer))
      (fun result self => result = answer ∧ self = before)
      (fun self => self = before ∧ answers.answered request = false) := by
  cases heard : answers.answered request with
  | false =>
    exact Triple.ofExcept (fun _ found _ same => ⟨Answers.ask_eq_ok found, same⟩)
      fun _ same => ⟨same, rfl⟩
  | true =>
    rw [Answers.ask, if_pos heard]
    exact fun self same => ⟨rfl, same⟩

theorem readEpochState_triple (incomplete : before.isEpochCompleted = false)
    (unmarked : (answers.accounts .epochMarker before.epoch).epochMarker = false) :
    Triple (· = before) (readEpochState answers)
      (fun _ self => SameEpoch before self ∧ self.Updated answers)
      (fun self => SameEpoch before self ∧ self.isEpochCompleted = false) := by
  have left : ∀ self, self = before → SameEpoch before self ∧ self.isEpochCompleted = false := by
    rintro self rfl
    exact ⟨⟨rfl, rfl⟩, incomplete⟩
  refine Triple.get_bind fun self same => ?_
  subst same
  refine ((ask_triple.ending (fun _ _ here => here) fun later here => left later here.1).bind
    fun account => ?_) self rfl
  by_cases short : account.isShort EpochState.size = true
  · rw [if_pos short]
    refine Triple.modify ?_
    rintro later ⟨rfl, rfl⟩
    exact ⟨⟨rfl, rfl⟩, .inl ⟨Bool.or_true _, .inr short⟩⟩
  rw [if_neg short]
  have found : Triple (fun later =>
      account = answers.account .epochState (·.epochState) self.addressEpoch ∧ later = self)
      (Client.ofExcept (account.found.mapError KeeperError.account))
      (fun epochState later => answers.account .epochState (·.epochState) self.addressEpoch =
        .ready epochState ∧ later = self)
      (· = self) :=
    Triple.ofExcept (fun epochState found later here =>
      ⟨here.1 ▸ Account.found_eq_ok (mapError_eq_ok.mp found), here.2⟩) fun _ here => here.2
  refine (found.ending (fun _ _ here => here) left).bind fun epochState => ?_
  rintro later ⟨ready, rfl⟩
  refine ((updateCurrentState_triple rfl).ending ?_ ?_) { later with epochState } rfl
  · rintro _ last ⟨phase, current, rfl⟩
    exact ⟨⟨rfl, rfl⟩, .inr ⟨phase, unmarked, ⟨epochState, ready, current⟩,
      Bool.or_eq_false_iff.mpr ⟨incomplete, rfl⟩, rfl⟩⟩
  · rintro last rfl
    exact ⟨⟨rfl, rfl⟩, incomplete⟩

/-- Only the answer on the marker can be missing where an update leaves the flag alone. -/
theorem updateEpochState_triple :
    Triple (· = before) (updateEpochState answers)
      (fun _ self => SameEpoch before self ∧ self.Updated answers)
      (fun self => SameEpoch before self ∧
        (answers.answered .epochMarker = true → self.isEpochCompleted = false)) := by
  refine Triple.get_bind fun self same => ?_
  subst same
  have unheard : ∀ later, later = self ∧ answers.answered .epochMarker = false →
      SameEpoch self later ∧
        (answers.answered .epochMarker = true → later.isEpochCompleted = false) := by
    rintro later ⟨rfl, silent⟩
    refine ⟨⟨rfl, rfl⟩, fun answered => ?_⟩
    cases silent.symm.trans answered
  refine ((ask_triple.ending (fun _ _ here => here) unheard).bind fun isEpochCompleted => ?_)
    self rfl
  rintro later ⟨answer, rfl⟩
  cases isEpochCompleted with
  | true => exact ⟨⟨rfl, rfl⟩, .inl ⟨rfl, .inl answer.symm⟩⟩
  | false =>
    have incomplete : { later with isEpochCompleted := false }.isEpochCompleted = false := rfl
    refine (readEpochState_triple incomplete answer.symm _ rfl).mono (fun _ _ here => here) ?_
    exact fun last here => ⟨here.1, fun _ => here.2⟩

theorem fetch_triple {lists : Except KeeperError Unit} {epoch : ℕ} :
    Triple (· = before) (fetch lists answers epoch)
      (fun _ self => self.epoch = epoch ∧ self.addressEpoch = some epoch)
      (fun self => self = before ∨ (self.epoch = before.epoch ∧
        (answers.answered .epochMarker = true → self.isEpochCompleted = false))) := by
  have listed : Triple (· = before) (Client.ofExcept lists) (fun _ => (· = before))
      (fun self => self = before ∨ (self.epoch = before.epoch ∧
        (answers.answered .epochMarker = true → self.isEpochCompleted = false))) :=
    Triple.ofExcept (fun _ _ _ same => same) fun _ same => .inl same
  refine listed.bind fun _ => ?_
  rintro self rfl
  refine (updateEpochState_triple.bind fun _ => Triple.modify ?_)
    { self with addressEpoch := some epoch } rfl |>.mono (fun _ _ here => here) ?_
  · exact fun later here => ⟨rfl, here.1.2⟩
  · exact fun later here => .inr ⟨here.1.1, here.2⟩

theorem detectStall_triple {total : Except KeeperError ℕ} :
    Keeps (· = before) (detectStall total) := by
  refine Triple.get_bind fun self same => ?_
  refine (Keeps.ofExcept _ |>.bind fun phase => ?_ : Keeps (· = before) _) self same
  cases phase with
  | distribute => exact (Keeps.ofExcept _).bind fun _ => Keeps.pure _
  | vote => exact Keeps.pure _
  | setWeight => exact Keeps.pure _
  | snapshot => exact Keeps.pure _
  | close => exact Keeps.pure _

end KeeperState

/-- The crank of a phase is due for an epoch that is not completed and is in that phase. -/
structure KeeperRound.Due (round : KeeperRound) (epoch : ℕ) (phase : EpochState.Phase) : Prop where
  incomplete : (round.updated.accounts .epochMarker epoch).epochMarker = false
  current : ∃ epochState,
    (round.updated.accounts .epochState epoch).epochState = .ready epochState ∧
      round.updated.phase (some epoch) epochState = .ok phase

/-- The epoch is completed, or its epoch state is not there or not yet in full. -/
def KeeperRound.NothingToDo (round : KeeperRound) (epoch : ℕ) : Prop :=
  (round.updated.accounts .epochMarker epoch).epochMarker = true ∨
    (round.updated.accounts .epochState epoch).epochState.isShort EpochState.size = true

namespace KeeperLoop

def start (startingEpoch currentEpoch : ℕ) : KeeperLoop :=
  ⟨.default, false, startingEpoch, currentEpoch, none⟩

def progress (startingEpoch currentEpoch : ℕ) (self : KeeperLoop) : KeeperLoop :=
  let result := progressEpoch currentEpoch self.state.isEpochCompleted startingEpoch
    self.lastCurrentEpoch self.currentEpoch self.epochStall
  { self with
    currentEpoch := result
    lastCurrentEpoch := max self.lastCurrentEpoch result
    epochStall := false
    cranked := none }

abbrev Program := Client KeeperLoop KeeperError

def onState {α : Type} (program : KeeperState.Program α) : Program α :=
  Client.onPart KeeperLoop.state (fun state self => { self with state }) program

def updateKeeperState (round : KeeperRound) : Program Unit := do
  let self ← Client.get
  if self.state.epoch = self.currentEpoch then pure ()
  else onState (KeeperState.fetch round.lists round.fetched self.currentEpoch)

/-- The crank of a phase and the test for a stall after it. -/
def runCrank (round : KeeperRound) (phase : EpochState.Phase) : Program Unit := do
  Client.modify fun self => { self with cranked := some (self.state.epoch, phase) }
  Client.ofExcept (round.crank phase)
  let epochStall ← onState (KeeperState.detectStall round.totalRewardsToBeDistributed)
  Client.modify fun self => { self with epochStall }

/-- An epoch that is completed is left, one without an epoch state gets one; either way the
round ends there. The phase is there by then, or the keeper panics. -/
def crankState (round : KeeperRound) : Program Unit := do
  let self ← Client.get
  if self.state.isEpochCompleted || self.state.epochState.isNone then pure ()
  else
    match self.state.currentState with
    | none => Client.abort
    | some phase => runCrank round phase

/-- One round of `run_keeper`. What fails ends the round; metrics do not. -/
def runRound (startingEpoch : ℕ) (round : KeeperRound) : Program Unit := do
  Client.modify (progress startingEpoch round.currentEpoch)
  Client.ofExcept round.registerVaults
  updateKeeperState round
  onState (KeeperState.updateEpochState round.updated)
  crankState round

def after (self : KeeperLoop) (startingEpoch : ℕ) (rounds : List KeeperRound) : KeeperLoop :=
  rounds.foldl (fun self round => (runRound startingEpoch round self).2) self

/-! ## What a round keeps -/

variable {startingEpoch : ℕ} {round : KeeperRound}

/-- The addresses are those of the epoch of the state. Before the first `fetch` there are no
addresses, and the epoch is 0. -/
def Addressed (self : KeeperLoop) : Prop :=
  self.state.addressEpoch.getD 0 = self.state.epoch

/-- Between rounds the addresses are those of the epoch of the state, or the state is of an
epoch that the loop has left, and not because it was completed. -/
structure Keyed (loop : KeeperLoop) : Prop where
  addressed : loop.Addressed ∨ (loop.state.isEpochCompleted = false ∧ loop.epochStall = false ∧
    loop.state.epoch ≠ loop.currentEpoch)
  seen : loop.state.epoch ≤ loop.lastCurrentEpoch

/-- The same while a round is under way that has not come to its crank. -/
structure Settled (loop : KeeperLoop) : Prop where
  addressed : loop.Addressed ∨ (loop.state.isEpochCompleted = false ∧
    loop.state.epoch ≠ loop.currentEpoch)
  running : loop.epochStall = false
  seen : loop.state.epoch ≤ loop.lastCurrentEpoch
  current : loop.currentEpoch ≤ loop.lastCurrentEpoch
  uncranked : loop.cranked = none

/-- The crank of the last round, if there was one, was due. -/
def CrankedDue (self : KeeperLoop) (round : KeeperRound) : Prop :=
  ∀ epoch phase, self.cranked = some (epoch, phase) →
    epoch = self.currentEpoch ∧ round.Due epoch phase

theorem Settled.keyed {self : KeeperLoop} (settled : self.Settled) : self.Keyed :=
  ⟨settled.addressed.imp id fun left => ⟨left.1, settled.running, left.2⟩, settled.seen⟩

theorem Settled.crankedDue {self : KeeperLoop} (settled : self.Settled) :
    self.CrankedDue round := by
  intro epoch phase cranked
  cases settled.uncranked.symm.trans cranked

theorem start_keyed (startingEpoch currentEpoch : ℕ) : (start startingEpoch currentEpoch).Keyed :=
  ⟨.inl rfl, Nat.zero_le _⟩

/-- An epoch that is left for a new one is not come back to at once. -/
theorem Keyed.progress {self : KeeperLoop} (keyed : self.Keyed) (currentEpoch : ℕ) :
    (self.progress startingEpoch currentEpoch).Settled where
  addressed := by
    obtain addressed | ⟨incomplete, running, left⟩ := keyed.addressed
    · exact .inl addressed
    refine .inr ⟨incomplete, ?_⟩
    change self.state.epoch ≠ progressEpoch _ _ _ _ _ _
    rw [incomplete, running]
    unfold progressEpoch
    by_cases fresh : self.lastCurrentEpoch < currentEpoch
    · rw [if_pos fresh]
      exact ne_of_lt (lt_of_le_of_lt keyed.seen fresh)
    · rw [if_neg fresh]
      exact left
  running := rfl
  seen := le_trans keyed.seen (le_max_left _ _)
  current := le_max_right _ _
  uncranked := rfl

/-- The state is of the epoch that the loop has settled on, and so are the addresses. -/
structure Arrived (loop : KeeperLoop) : Prop where
  settled : loop.Settled
  here : loop.state.epoch = loop.currentEpoch
  addressed : loop.Addressed

theorem updateKeeperState_triple (answered : round.fetched.answered .epochMarker = true) :
    Triple Settled (updateKeeperState round) (fun _ => Arrived) Settled := by
  refine Triple.get_bind fun self settled => ?_
  by_cases same : self.state.epoch = self.currentEpoch
  · rw [if_pos same]
    exact ⟨settled, same, settled.addressed.resolve_right fun left => left.2 same⟩
  rw [if_neg same]
  refine Triple.onPart (fun loop (here : loop = self) => ?_) self rfl
  subst here
  refine (KeeperState.fetch_triple loop.state rfl).mono ?_ ?_
  · rintro _ state ⟨epoch, address⟩
    have addressed : Addressed { loop with state } := by
      rw [Addressed, address, epoch]
      rfl
    have seen : state.epoch ≤ loop.lastCurrentEpoch := epoch ▸ settled.current
    exact ⟨⟨.inl addressed, settled.running, seen, settled.current, settled.uncranked⟩, epoch,
      addressed⟩
  · rintro state (rfl | ⟨epoch, incomplete⟩)
    · exact settled
    · exact ⟨.inr ⟨incomplete answered, fun back => same (epoch.symm.trans back)⟩, settled.running,
        epoch ▸ settled.seen, settled.current, settled.uncranked⟩

theorem Arrived.withState {self : KeeperLoop} {state : KeeperState} (arrived : self.Arrived)
    (same : KeeperState.SameEpoch self.state state) : Arrived { self with state } := by
  have addressed : Addressed { self with state } := by
    rw [Addressed, same.1, same.2]
    exact arrived.addressed
  have seen : state.epoch ≤ self.lastCurrentEpoch := same.1 ▸ arrived.settled.seen
  exact ⟨⟨.inl addressed, arrived.settled.running, seen, arrived.settled.current,
    arrived.settled.uncranked⟩, same.1.trans arrived.here, addressed⟩

theorem updateEpochState_triple :
    Triple Arrived (onState (KeeperState.updateEpochState round.updated))
      (fun _ self => self.Arrived ∧ self.state.Updated round.updated) Settled :=
  Triple.onPart fun self arrived => (KeeperState.updateEpochState_triple self.state rfl).mono
    (fun _ _ done => ⟨arrived.withState done.1, done.2⟩)
    fun _ done => (arrived.withState done.1).settled

/-- What holds from the crank on. -/
structure Ran (round : KeeperRound) (loop : KeeperLoop) : Prop where
  addressed : loop.Addressed
  seen : loop.state.epoch ≤ loop.lastCurrentEpoch
  here : loop.state.epoch = loop.currentEpoch
  due : loop.CrankedDue round
  cranked : loop.cranked ≠ none

/-- What holds after a round in which nothing failed. -/
def Finished (round : KeeperRound) (self : KeeperLoop) : Prop :=
  (self.Keyed ∧ self.CrankedDue round) ∧ self.state.epoch = self.currentEpoch ∧
    (self.state.NothingToDo round.updated ∨ self.cranked ≠ none)

theorem Ran.keyed {self : KeeperLoop} (ran : self.Ran round) :
    self.Keyed ∧ self.CrankedDue round :=
  ⟨⟨.inl ran.addressed, ran.seen⟩, ran.due⟩

theorem runCrank_triple {before holds : KeeperLoop → Prop} {phase : EpochState.Phase}
    (cranks : ∀ self, before self →
      holds { self with cranked := some (self.state.epoch, phase) })
    (onStall : ∀ (self : KeeperLoop) (epochStall : Bool), holds self →
      holds { self with epochStall }) :
    Triple before (runCrank round phase) (fun _ => holds) holds := by
  refine Triple.bind (Triple.modify cranks) fun _ => ?_
  refine (Keeps.ofExcept _).bind fun _ => Keeps.bind ?_ fun epochStall =>
    Triple.modify fun loop here => onStall loop epochStall here
  refine Triple.onPart fun loop here => (KeeperState.detectStall_triple loop.state rfl).mono ?_ ?_
  · rintro _ state rfl
    exact here
  · rintro state rfl
    exact here

theorem crankState_outcome {self : KeeperLoop} {post : Unit → KeeperLoop → Prop}
    {failed : KeeperLoop → Prop} (updated : self.state.Updated round.updated)
    (idle : self.state.NothingToDo round.updated → post () self)
    (cranks : ∀ phase, self.state.InPhase round.updated phase →
      Outcome post failed (runCrank round phase self)) :
    Outcome post failed (crankState round self) := by
  change Outcome post failed ((ite _ _ _ : Program Unit) self)
  obtain ⟨idles, nothing⟩ | ⟨phase, inPhase⟩ := updated
  · rw [if_pos idles]
    exact idle nothing
  · rw [if_neg (Bool.eq_false_iff.mp inPhase.goesOn), inPhase.found]
    exact cranks phase inPhase

theorem Addressed.due {self : KeeperLoop} {phase : EpochState.Phase} (addressed : self.Addressed)
    (inPhase : self.state.InPhase round.updated phase) : round.Due self.state.epoch phase := by
  obtain ⟨incomplete, ⟨epochState, ready, current⟩, -, -⟩ := inPhase
  cases address : self.state.addressEpoch with
  | none =>
    rw [address] at ready
    cases ready
  | some epoch =>
    have here : epoch = self.state.epoch := by
      rw [Addressed, address] at addressed
      exact addressed
    rw [address, here] at ready current
    exact ⟨incomplete, epochState, ready, current⟩

/-- Past epoch 0 what an update finds at the address at hand it finds for the epoch. -/
theorem Addressed.nothingToDo {self : KeeperLoop} (addressed : self.Addressed)
    (positive : 0 < self.state.epoch) (nothing : self.state.NothingToDo round.updated) :
    round.NothingToDo self.state.epoch := by
  refine nothing.imp id fun short => ?_
  cases address : self.state.addressEpoch with
  | none =>
    rw [Addressed, address] at addressed
    exact absurd addressed positive.ne
  | some epoch =>
    have here : epoch = self.state.epoch := by
      rw [Addressed, address] at addressed
      exact addressed
    rw [address, here] at short
    exact short

theorem crankState_triple :
    Triple (fun self => self.Arrived ∧ self.state.Updated round.updated)
      (crankState round) (fun _ => Finished round)
      (fun self => self.Keyed ∧ self.CrankedDue round) := by
  rintro self ⟨arrived, updated⟩
  refine crankState_outcome updated (fun nothing => ⟨⟨arrived.settled.keyed,
    arrived.settled.crankedDue⟩, arrived.here, .inl nothing⟩) fun phase inPhase => ?_
  have finished : ∀ later, Ran round later → Finished round later :=
    fun later ran => ⟨ran.keyed, ran.here, .inr ran.cranked⟩
  have stalls : ∀ (later : KeeperLoop) (epochStall : Bool), Ran round later →
      Ran round { later with epochStall } :=
    fun later epochStall ran => ⟨ran.addressed, ran.seen, ran.here, ran.due, ran.cranked⟩
  refine ((runCrank_triple ?_ stalls).ending (fun _ => finished) fun _ => Ran.keyed) self rfl
  rintro loop rfl
  refine ⟨arrived.addressed, arrived.settled.seen, arrived.here, fun epoch other cranked => ?_,
    by rintro ⟨⟩⟩
  cases cranked
  exact ⟨arrived.here, arrived.addressed.due inPhase⟩

theorem runRound_triple (startingEpoch : ℕ)
    (answered : round.fetched.answered .epochMarker = true) :
    Triple Keyed (runRound startingEpoch round) (fun _ => Finished round)
      (fun self => self.Keyed ∧ self.CrankedDue round) := by
  have stopped : ∀ self : KeeperLoop, self.Settled → self.Keyed ∧ self.CrankedDue round :=
    fun self settled => ⟨settled.keyed, settled.crankedDue⟩
  refine Triple.bind (Triple.modify fun self keyed => keyed.progress round.currentEpoch) fun _ => ?_
  refine Triple.bind (Triple.ofExcept (fun _ _ _ settled => settled) stopped) fun _ => ?_
  refine ((updateKeeperState_triple answered).ending (fun _ _ here => here) stopped).bind
    fun _ => ?_
  exact (updateEpochState_triple.ending (fun _ _ here => here) stopped).bind
    fun _ => crankState_triple

/-- The phase is there whenever the loop comes to the crank. -/
theorem runRound_ends (startingEpoch : ℕ) :
    Keeps (fun _ => True) (runRound startingEpoch round) := by
  refine Keeps.bind (Triple.modify fun _ _ => trivial) fun _ => ?_
  refine (Keeps.ofExcept _).bind fun _ => ?_
  refine Keeps.bind (Triple.get_bind fun self _ => ?_) fun _ => ?_
  · split
    · exact trivial
    · exact Triple.onPart (fun loop (_ : True) => (KeeperState.fetch_triple loop.state rfl).mono
        (fun _ _ _ => trivial) fun _ _ => trivial) self trivial
  have updated : Triple (fun _ => True) (onState (KeeperState.updateEpochState round.updated))
      (fun _ self => self.state.Updated round.updated) (fun _ => True) :=
    Triple.onPart fun self _ => (KeeperState.updateEpochState_triple self.state rfl).mono
      (fun _ _ here => here.2) fun _ _ => trivial
  refine updated.bind fun _ self here =>
    crankState_outcome here (fun _ => trivial) fun phase _ => ?_
  exact runCrank_triple (fun _ (_ : True) => trivial) (fun _ _ _ => trivial) self trivial

theorem after_keyed {self : KeeperLoop} {rounds : List KeeperRound} (keyed : self.Keyed)
    (answered : ∀ round ∈ rounds, round.fetched.answered .epochMarker = true) :
    (self.after startingEpoch rounds).Keyed := by
  induction rounds generalizing self with
  | nil => exact keyed
  | cons round rest ih =>
    have reached := runRound_triple startingEpoch (answered round List.mem_cons_self) self keyed
    have kept := (reached.mono (fun _ _ finished => finished.1) fun _ here => here).ends
    exact ih kept.2.1 fun other member => answered other (List.mem_cons_of_mem _ member)

/-- What the loop goes by when it settles on the next epoch. -/
def epochs (self : KeeperLoop) : ℕ × ℕ := (self.currentEpoch, self.lastCurrentEpoch)

theorem updateKeeperState_leaves : Leaves epochs (updateKeeperState round) := by
  refine Leaves.get_bind fun self => ?_
  split
  · exact fun _ => rfl
  · exact fun _ => rfl

theorem crankState_leaves : Leaves epochs (crankState round) := by
  refine Leaves.get_bind fun self => ?_
  split
  · exact fun _ => rfl
  · cases self.state.currentState with
    | none => exact fun _ => rfl
    | some phase =>
      refine Leaves.bind (fun _ => rfl) fun _ => ?_
      refine (Leaves.ofExcept _).bind fun _ => ?_
      exact Leaves.bind (fun _ => rfl) fun _ _ => rfl

/-- Past its beginning a round does not change which epoch it is for. -/
theorem runRound_epochs (startingEpoch : ℕ) (round : KeeperRound) (self : KeeperLoop) :
    epochs (runRound startingEpoch round self).2 =
      epochs (self.progress startingEpoch round.currentEpoch) := by
  have rest : Leaves epochs (do
      Client.ofExcept round.registerVaults
      updateKeeperState round
      onState (KeeperState.updateEpochState round.updated)
      crankState round) :=
    (Leaves.ofExcept _).bind fun _ => updateKeeperState_leaves.bind fun _ =>
      Leaves.bind (fun _ => rfl) fun _ => crankState_leaves
  exact rest (self.progress startingEpoch round.currentEpoch)

/-- A loop that starts past epoch 0 never comes to it. -/
theorem runRound_positive {self : KeeperLoop} (started : 0 < startingEpoch)
    (positive : 0 < self.currentEpoch) : 0 < (runRound startingEpoch round self).2.currentEpoch := by
  have settled := congrArg Prod.fst (runRound_epochs startingEpoch round self)
  rw [epochs, epochs, progress, progressEpoch] at settled
  dsimp only at settled
  rw [settled]
  split_ifs <;> omega

theorem after_positive {self : KeeperLoop} {rounds : List KeeperRound} (started : 0 < startingEpoch)
    (positive : 0 < self.currentEpoch) : 0 < (self.after startingEpoch rounds).currentEpoch := by
  induction rounds generalizing self with
  | nil => exact positive
  | cons round rest ih => exact ih (runRound_positive started positive)

/-- Whatever fails, the keeper does not panic. As long as `fetch` always learns whether the epoch
that it comes from is completed, a crank that the keeper runs is the one of the phase that it has
just read for the epoch it has settled on. If the keeper was started past epoch 0, a round in which
nothing fails runs one, unless that epoch is completed or its epoch state is not there in full. -/
theorem keeper_cranks_the_current_phase (startingEpoch currentEpoch : ℕ)
    (rounds : List KeeperRound) (round : KeeperRound) :
    let outcome := runRound startingEpoch round
      ((start startingEpoch currentEpoch).after startingEpoch rounds)
    outcome.1 ≠ .error .aborted ∧
      ((∀ other ∈ rounds ++ [round], other.fetched.answered .epochMarker = true) →
        (∀ epoch phase, outcome.2.cranked = some (epoch, phase) →
          epoch = outcome.2.currentEpoch ∧ round.Due epoch phase) ∧
        (outcome.1 = .ok () → outcome.2.state.epoch = outcome.2.currentEpoch ∧
          (0 < startingEpoch →
            round.NothingToDo outcome.2.currentEpoch ∨ outcome.2.cranked ≠ none))) := by
  refine ⟨(runRound_ends startingEpoch _ trivial).ends.1, fun answered => ?_⟩
  have keyed : ((start startingEpoch currentEpoch).after startingEpoch rounds).Keyed :=
    after_keyed (start_keyed startingEpoch currentEpoch) fun other member =>
      answered other (List.mem_append_left _ member)
  have learns : round.fetched.answered .epochMarker = true :=
    answered round (List.mem_append_right _ List.mem_cons_self)
  have reached := runRound_triple startingEpoch learns _ keyed
  have kept := (reached.mono (fun _ _ finished => finished.1) fun _ here => here).ends
  refine ⟨kept.2.2, fun ok => ?_⟩
  obtain ⟨⟨keyedAfter, -⟩, here, finished⟩ := reached.of_ok ok
  refine ⟨here, fun started => finished.imp (fun nothing => ?_) id⟩
  have positive : 0 < (runRound startingEpoch round
      ((start startingEpoch currentEpoch).after startingEpoch rounds)).2.currentEpoch :=
    runRound_positive started (after_positive started started)
  have addressed := keyedAfter.addressed.resolve_right fun left => left.2.2 here
  rw [← here] at positive ⊢
  exact addressed.nothingToDo positive nothing

/-- Every request is answered. The epochs before 101 are completed, the others have just been
opened. -/
def sampleAnswers : Answers where
  answered _ := true
  accounts _ epoch := { EpochAccounts.absent .default epoch with
    epochMarker := decide (epoch < 101)
    epochState := .ready (EpochState.zeroed.initializeState .default epoch 255 0) }
  currentSlot := 0
  getEpoch slot := slot / 432000
  config := (EpochAccounts.sampleContext 0).config

def sampleRound : KeeperRound where
  currentEpoch := 101
  registerVaults := .ok ()
  lists := .ok ()
  fetched := sampleAnswers
  updated := sampleAnswers
  crank _ := .ok ()
  totalRewardsToBeDistributed := .ok 0

theorem keeper_cranks_the_current_phase_of_sampleRound :
    (runRound 100 sampleRound (start 100 101)).2.cranked = none ∧ sampleRound.NothingToDo 100 ∧
      (runRound 100 sampleRound ((start 100 101).after 100 [sampleRound])).2.cranked =
        some (101, .setWeight) ∧
      sampleRound.Due 101 .setWeight := by
  have first : ((runRound 100 sampleRound (start 100 101)).1.toOption = some () ∧
      (runRound 100 sampleRound (start 100 101)).2.currentEpoch = 100) ∧
      (runRound 100 sampleRound (start 100 101)).2.cranked = none := by decide +kernel
  obtain ⟨⟨returned, current⟩, idle⟩ := first
  have cranked : (runRound 100 sampleRound ((start 100 101).after 100 [sampleRound])).2.cranked =
      some (101, .setWeight) := by decide +kernel
  have answered : ∀ rounds : List KeeperRound, (∀ other ∈ rounds, other = sampleRound) →
      ∀ other ∈ rounds, other.fetched.answered .epochMarker = true := by
    intro rounds same other member
    rw [same other member]
    rfl
  have nothing := keeper_cranks_the_current_phase 100 101 [] sampleRound
  have reached := keeper_cranks_the_current_phase 100 101 [sampleRound] sampleRound
  refine ⟨idle, ?_, cranked, ((reached.2 (answered _ (by simp))).1 101 .setWeight cranked).2⟩
  have ok : (runRound 100 sampleRound (start 100 101)).1 = .ok () := by
    cases outcome : (runRound 100 sampleRound (start 100 101)).1 with
    | ok _ => rfl
    | error failure =>
      rw [outcome] at returned
      cases returned
  obtain ⟨-, runs⟩ := (nothing.2 (answered _ (by simp))).2 ok
  rw [← current]
  exact (runs (by norm_num)).resolve_right fun ran => ran idle

/-! ## The epochs in turn -/

/-- The loop is at an epoch between the one that it started at and the one of the chain. -/
structure Within (loop : KeeperLoop) (startingEpoch latest : ℕ) : Prop where
  started : startingEpoch ≤ loop.currentEpoch
  current : loop.currentEpoch ≤ latest
  last : loop.lastCurrentEpoch = latest

theorem Within.progress {self : KeeperLoop} {latest : ℕ} (within : self.Within startingEpoch latest)
    (ascending : latest ≤ round.currentEpoch) :
    (runRound startingEpoch round self).2.Within startingEpoch round.currentEpoch := by
  obtain ⟨started, current, rfl⟩ := within
  have settled : startingEpoch ≤ (self.progress startingEpoch round.currentEpoch).currentEpoch ∧
      (self.progress startingEpoch round.currentEpoch).currentEpoch ≤ round.currentEpoch ∧
      (self.progress startingEpoch round.currentEpoch).lastCurrentEpoch = round.currentEpoch := by
    unfold KeeperLoop.progress progressEpoch
    dsimp only
    split_ifs <;> omega
  have same := runRound_epochs startingEpoch round self
  rw [epochs, epochs, Prod.mk.injEq] at same
  exact ⟨same.1 ▸ settled.1, same.1 ▸ settled.2.1, same.2 ▸ settled.2.2⟩

theorem after_within {self : KeeperLoop} {latest : ℕ} {rounds : List KeeperRound}
    (within : self.Within startingEpoch latest)
    (ascending : List.IsChain (· ≤ ·) (latest :: rounds.map (·.currentEpoch))) :
    (self.after startingEpoch rounds).Within startingEpoch
      ((latest :: rounds.map (·.currentEpoch)).getLast (List.cons_ne_nil _ _)) := by
  induction rounds generalizing self latest with
  | nil => exact within
  | cons round rest ih =>
    rw [List.map_cons, List.isChain_cons_cons] at ascending
    exact ih (within.progress ascending.1) ascending.2

/-- The loop is done with its epoch for now, completed or stalled. Where a request has failed
the completion may still be that of the epoch before, and the turn an empty one. -/
def turnOver (self : KeeperLoop) : Bool := self.state.isEpochCompleted || self.epochStall

/-- How many of the rounds begin with the epoch's turn over. -/
def turns (startingEpoch : ℕ) : KeeperLoop → List KeeperRound → ℕ
  | _, [] => 0
  | self, round :: rest =>
    self.turnOver.toNat + turns startingEpoch (runRound startingEpoch round self).2 rest

/-- How many turns come before an epoch's own. -/
def turnsBefore (self : KeeperLoop) (startingEpoch latest epoch : ℕ) : ℕ :=
  if self.currentEpoch ≤ epoch then epoch - self.currentEpoch
  else latest - self.currentEpoch + 1 + (epoch - startingEpoch)

theorem turnsBefore_progress {self : KeeperLoop} {latest epoch : ℕ}
    (within : self.Within startingEpoch latest) (same : round.currentEpoch = latest)
    (started : startingEpoch ≤ epoch) (current : epoch ≤ latest)
    (elsewhere : self.currentEpoch ≠ epoch) :
    (runRound startingEpoch round self).2.turnsBefore startingEpoch latest epoch +
      self.turnOver.toNat ≤ self.turnsBefore startingEpoch latest epoch := by
  obtain ⟨began, present, rfl⟩ := within
  have next : (runRound startingEpoch round self).2.currentEpoch =
      if self.turnOver then
        if self.currentEpoch = self.lastCurrentEpoch then startingEpoch else self.currentEpoch + 1
      else self.currentEpoch := by
    have settled := congrArg Prod.fst (runRound_epochs startingEpoch round self)
    rw [epochs, epochs, KeeperLoop.progress, progressEpoch, same, if_neg (lt_irrefl _)] at settled
    exact settled
  unfold turnsBefore
  rw [next]
  cases self.turnOver with
  | false => exact le_rfl
  | true =>
    simp only [if_true, Bool.toNat_true]
    split_ifs <;> omega

/-- An epoch gets its turn once the turns before it are over. -/
theorem exists_turn {self : KeeperLoop} {latest epoch : ℕ} {rounds : List KeeperRound}
    (within : self.Within startingEpoch latest)
    (same : ∀ round ∈ rounds, round.currentEpoch = latest) (started : startingEpoch ≤ epoch)
    (current : epoch ≤ latest)
    (enough : self.turnsBefore startingEpoch latest epoch ≤ self.turns startingEpoch rounds) :
    ∃ done rest, rounds = done ++ rest ∧ (self.after startingEpoch done).currentEpoch = epoch := by
  induction rounds generalizing self with
  | nil =>
    refine ⟨[], [], rfl, ?_⟩
    change self.currentEpoch = epoch
    unfold turnsBefore turns at enough
    split_ifs at enough <;> omega
  | cons round rest ih =>
    by_cases here : self.currentEpoch = epoch
    · exact ⟨[], round :: rest, rfl, here⟩
    have latestRound : round.currentEpoch = latest := same round List.mem_cons_self
    have less := turnsBefore_progress within latestRound started current here
    have moved : (runRound startingEpoch round self).2.Within startingEpoch round.currentEpoch :=
      within.progress latestRound.ge
    rw [latestRound] at moved
    unfold turns at enough
    obtain ⟨done, others, split, reached⟩ := ih moved
      (fun other member => same other (List.mem_cons_of_mem _ member)) (by omega)
    exact ⟨round :: done, others, by rw [split, List.cons_append], reached⟩

/-- While the epoch of the chain does not go back, and was not behind the one the keeper was
started with, the keeper stays between the two. While it stays the same the keeper comes to every
epoch between them, whichever requests fail, after as many turns as there are others. -/
theorem keeper_comes_to_every_epoch (startingEpoch currentEpoch : ℕ) (rounds : List KeeperRound)
    (begun : startingEpoch ≤ currentEpoch)
    (ascending : List.IsChain (· ≤ ·) (currentEpoch :: rounds.map (·.currentEpoch))) :
    let self := (start startingEpoch currentEpoch).after startingEpoch rounds
    let latest := (currentEpoch :: rounds.map (·.currentEpoch)).getLast (List.cons_ne_nil _ _)
    (startingEpoch ≤ self.currentEpoch ∧ self.currentEpoch ≤ latest) ∧
      ∀ later : List KeeperRound, (∀ round ∈ later, round.currentEpoch = latest) →
        latest - startingEpoch ≤ self.turns startingEpoch later →
        ∀ epoch, startingEpoch ≤ epoch → epoch ≤ latest → ∃ done rest, later = done ++ rest ∧
          (self.after startingEpoch done).currentEpoch = epoch := by
  have within : (start startingEpoch currentEpoch).Within startingEpoch currentEpoch :=
    ⟨le_rfl, begun, rfl⟩
  intro self latest
  have reached : self.Within startingEpoch latest := after_within within ascending
  refine ⟨⟨reached.started, reached.current⟩, fun later same enough epoch started current => ?_⟩
  have atMost : self.turnsBefore startingEpoch latest epoch ≤ latest - startingEpoch := by
    have before := reached.started
    have after := reached.current
    unfold turnsBefore
    split_ifs <;> omega
  exact exists_turn reached same started current (le_trans atMost enough)

theorem keeper_comes_to_every_epoch_in_sampleRounds :
    ∃ done rest, [sampleRound] = done ++ rest ∧
      (((start 100 101).after 100 [sampleRound]).after 100 done).currentEpoch = 101 := by
  have ascending : List.IsChain (· ≤ ·) (101 :: [sampleRound].map (·.currentEpoch)) :=
    List.isChain_pair.mpr le_rfl
  have reached := keeper_comes_to_every_epoch 100 101 [sampleRound] (by decide) ascending
  have enough : 101 - 100 ≤ ((start 100 101).after 100 [sampleRound]).turns 100 [sampleRound] := by
    decide +kernel
  exact reached.2 [sampleRound] (fun round member => by rw [List.mem_singleton.mp member]; rfl)
    enough 101 (by decide) (by decide)

end KeeperLoop

end TipRouter
