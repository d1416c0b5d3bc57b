import Mathlib.Logic.Function.Basic
import Mathlib.Logic.Relation
import Mathlib.Tactic.Push

namespace OpenStock.SymbolMemory.Locks

/- `symbol_memory/locking.py`: processes on one lock path, one file-system call at a time. -/

structure LockRecord where
  ownerPid : Nat
  ownerToken : Nat

-- A created file is empty until its owner writes the record.
structure LockFile where
  mtime : Int
  record : Option LockRecord

-- Where a process stands: before the named call, or inside the locked region.
-- From the exclusive create on it carries the file that it created.
inductive Phase where
  | dead
  | idle
  | creating (token : Nat)
  | statting (token : Nat)
  | reading (token : Nat)
  | probing (token owner : Nat)
  | unlinking (token : Nat)
  | writing (token file : Nat)
  | inside (token file : Nat)
  | checking (token file : Nat)
  | releasing (token file : Nat)
deriving DecidableEq

def Phase.token : Phase → Option Nat
  | .dead | .idle => none
  | .creating token | .statting token | .reading token | .probing token _ | .unlinking token => some token
  | .writing token _ | .inside token _ | .checking token _ | .releasing token _ => some token

def Phase.file : Phase → Option Nat
  | .writing _ file | .inside _ file | .checking _ file | .releasing _ file => some file
  | _ => none

-- The file that must stay at the path until the process has unlinked it.
def Phase.holds : Phase → Option Nat
  | .writing _ file | .inside _ file | .releasing _ file => some file
  | _ => none

structure LockSystem where
  now : Int
  path : Option Nat
  files : Nat → LockFile
  created : Nat
  issued : Nat
  phase : Nat → Phase

-- Five minutes, in microseconds.
def staleLock : Int := 300 * 1000000

namespace LockSystem

def goes (system : LockSystem) (pid : Nat) (next : Phase) : LockSystem :=
  {system with phase := Function.update system.phase pid next}

-- `os.open` with O_CREAT and O_EXCL on a free path.
def create (system : LockSystem) (pid token : Nat) : LockSystem :=
  {system with
    path := some system.created
    files := Function.update system.files system.created ⟨system.now,none⟩
    created := system.created + 1
    phase := Function.update system.phase pid (.writing token system.created)}

def write (system : LockSystem) (pid token file : Nat) : LockSystem :=
  {system with
    files := Function.update system.files file ⟨system.now,some ⟨pid,token⟩⟩
    phase := Function.update system.phase pid (.inside token file)}

def unlink (system : LockSystem) (pid : Nat) (next : Phase) : LockSystem :=
  {system with path := none,phase := Function.update system.phase pid next}

-- A token of its own for each acquisition.
def start (system : LockSystem) (pid : Nat) : LockSystem :=
  {system with issued := system.issued + 1,phase := Function.update system.phase pid (.creating system.issued)}

-- The next call of a process. A contention error leaves it outside.
def act (system : LockSystem) (pid : Nat) : Option LockSystem :=
  match system.phase pid with
  | .dead => none
  | .idle => some (system.start pid)
  | .creating token =>
    match system.path with
    | none => some (system.create pid token)
    | some _ => some (system.goes pid (.statting token))
  | .statting token =>
    match system.path with
    | none => some (system.goes pid (.unlinking token))
    | some file => some (system.goes pid (if system.now - (system.files file).mtime < staleLock then .idle else .reading token))
  | .reading token =>
    match system.path with
    | none => some (system.goes pid (.unlinking token))
    | some file =>
      match (system.files file).record with
      | none => some (system.goes pid (.unlinking token))
      | some record => some (system.goes pid (.probing token record.ownerPid))
  | .probing token owner => some (system.goes pid (if system.phase owner = .dead then .unlinking token else .idle))
  | .unlinking token => some (system.unlink pid (.creating token))
  | .writing token file => some (system.write pid token file)
  | .inside token file => some (system.goes pid (.checking token file))
  | .checking token file =>
    match system.path.bind (fun found => (system.files found).record) with
    | none => some (system.goes pid .idle)
    | some record => some (system.goes pid (if record.ownerToken = token then .releasing token file else .idle))
  | .releasing _ _ => some (system.unlink pid .idle)

end LockSystem

-- The wall clock moves in either direction; a process dies anywhere, and its
-- number may be given to a new process.
inductive Event where
  | clock (now : Int)
  | crash (pid : Nat)
  | spawn (pid : Nat)
  | act (pid : Nat)

def LockSystem.step (system : LockSystem) : Event → Option LockSystem
  | .clock now => some {system with now := now}
  | .crash pid => some (system.goes pid .dead)
  | .spawn pid => if system.phase pid = .dead then some (system.goes pid .idle) else none
  | .act pid => system.act pid

-- Nobody runs, and the path may hold what a dead owner left.
structure Start (system : LockSystem) : Prop where
  outside : ∀ pid, system.phase pid = .dead ∨ system.phase pid = .idle
  linked : ∀ file, system.path = some file → file < system.created
  recorded : ∀ file record, (system.files file).record = some record → record.ownerToken < system.issued

def Excludes (system : LockSystem) : Prop :=
  ∀ one other token file token' file', system.phase one = .inside token file → system.phase other = .inside token' file' →
    one = other

-- No reclaimer unlinks the file of a live owner that has not released it.
def Careful (system : LockSystem) (event : Event) : Prop :=
  ∀ pid token file, event = .act pid → system.phase pid = .unlinking token → system.path = some file →
    ∀ owner, (system.phase owner).holds ≠ some file

def Ran (before after : LockSystem) : Prop := ∃ event, before.step event = some after

def CarefullyRan (before after : LockSystem) : Prop := ∃ event, Careful before event ∧ before.step event = some after

/- What every careful step keeps. -/

structure Sound (system : LockSystem) : Prop where
  issued : ∀ pid token, (system.phase pid).token = some token → token < system.issued
  own : ∀ one other token, (system.phase one).token = some token → (system.phase other).token = some token → one = other
  created : ∀ pid file, (system.phase pid).file = some file → file < system.created
  single : ∀ one other file, (system.phase one).file = some file → (system.phase other).file = some file → one = other
  linked : ∀ file, system.path = some file → file < system.created
  recorded : ∀ file record, (system.files file).record = some record → record.ownerToken < system.issued ∧
    ∀ pid, (system.phase pid).token = some record.ownerToken → (system.phase pid).file = some file
  held : ∀ pid file, (system.phase pid).holds = some file → system.path = some file

theorem start_sound (start : Start system) : Sound system := by
  have quiet : ∀ pid, (system.phase pid).token = none ∧ (system.phase pid).file = none ∧ (system.phase pid).holds = none := by
    intro pid
    rcases start.outside pid with dead | idle
    · simp [dead,Phase.token,Phase.file,Phase.holds]
    · simp [idle,Phase.token,Phase.file,Phase.holds]
  constructor
  case linked => exact start.linked
  case recorded =>
    intro file record read
    refine ⟨start.recorded file record read,?_⟩
    intro pid token
    simp [(quiet pid).1] at token
  all_goals simp [quiet]

theorem holds_file {phase : Phase} (holding : phase.holds = some file) : phase.file = some file := by
  cases phase with
  | writing | inside | releasing => exact holding
  | _ => cases holding

theorem sound_excludes (sound : Sound system) : Excludes system := by
  intro one other token file token' file' first second
  have placed := sound.held one file (by simp [first,Phase.holds])
  have again := sound.held other file' (by simp [second,Phase.holds])
  have same : file = file' := Option.some.inj (placed.symm.trans again)
  exact sound.single one other file (by simp [first,Phase.file]) (by simp [second,Phase.file,same])

-- A phase that drops the token and the file, or keeps both.
def Follows (next old : Phase) : Prop :=
  next.token = none ∧ next.file = none ∨ next.token = old.token ∧ next.file = old.file

section moves
variable {system : LockSystem} {pid : Nat} {next : Phase} {other token : Nat}

theorem token_before (follows : Follows next (system.phase pid))
    (read : (Function.update system.phase pid next other).token = some token) : (system.phase other).token = some token := by
  by_cases same : other = pid
  · subst same
    rw [Function.update_self] at read
    rcases follows with ⟨none',_⟩ | ⟨kept,_⟩
    · cases none'.symm.trans read
    · exact kept.symm.trans read
  · rwa [Function.update_of_ne same] at read

theorem file_before (follows : Follows next (system.phase pid)) {other file : Nat}
    (read : (Function.update system.phase pid next other).file = some file) : (system.phase other).file = some file := by
  by_cases same : other = pid
  · subst same
    rw [Function.update_self] at read
    rcases follows with ⟨_,none'⟩ | ⟨_,kept⟩
    · cases none'.symm.trans read
    · exact kept.symm.trans read
  · rwa [Function.update_of_ne same] at read

-- The file of a token that is kept is kept.
theorem file_after (follows : Follows next (system.phase pid))
    (read : (Function.update system.phase pid next other).token = some token) :
    (Function.update system.phase pid next other).file = (system.phase other).file := by
  by_cases same : other = pid
  · subst same
    rw [Function.update_self] at read ⊢
    rcases follows with ⟨none',_⟩ | ⟨_,kept⟩
    · cases none'.symm.trans read
    · exact kept
  · rw [Function.update_of_ne same]

-- A change of one phase, over a path that the holders agree with.
theorem moved_sound (sound : Sound system) (follows : Follows next (system.phase pid)) {path : Option Nat}
    (linked : ∀ file, path = some file → file < system.created)
    (held : ∀ other file, (Function.update system.phase pid next other).holds = some file → path = some file) :
    Sound {system with path := path,phase := Function.update system.phase pid next} where
  issued := fun other token read => sound.issued other token (token_before follows read)
  own := fun one other token first second => sound.own one other token (token_before follows first) (token_before follows second)
  created := fun other file read => sound.created other file (file_before follows read)
  single := fun one other file first second => sound.single one other file (file_before follows first) (file_before follows second)
  linked := linked
  recorded := by
    intro file record read
    obtain ⟨given,owner⟩ := sound.recorded file record read
    refine ⟨given,?_⟩
    intro other token
    exact (file_after follows token).trans (owner other (token_before follows token))
  held := held

theorem goes_sound (sound : Sound system) (follows : Follows next (system.phase pid))
    (placed : ∀ file, next.holds = some file → system.path = some file) : Sound (system.goes pid next) := by
  apply moved_sound sound follows sound.linked
  intro other file holding
  by_cases same : other = pid
  · subst same
    rw [Function.update_self] at holding
    exact placed file holding
  · rw [Function.update_of_ne same] at holding
    exact sound.held other file holding

-- A phase of the same token and file that is not one of a holder.
theorem quiet_sound (sound : Sound system) (stands : system.phase pid = old) (token : next.token = old.token)
    (file : next.file = old.file) (quiet : next.holds = none) : Sound (system.goes pid next) := by
  apply goes_sound sound
  · rw [stands]
    exact .inr ⟨token,file⟩
  · intro found holding
    cases quiet.symm.trans holding

theorem unlink_sound (sound : Sound system) (follows : Follows next (system.phase pid)) (outside : next.holds = none)
    (released : ∀ other file, other ≠ pid → system.path = some file → (system.phase other).holds ≠ some file) :
    Sound (system.unlink pid next) := by
  apply moved_sound sound follows
  · intro file linked
    cases linked
  · intro other file holding
    by_cases same : other = pid
    · subst same
      rw [Function.update_self,outside] at holding
      cases holding
    · rw [Function.update_of_ne same] at holding
      exact absurd holding (released other file same (sound.held other file holding))

theorem start_acquiring (sound : Sound system) (idle : system.phase pid = .idle) : Sound (system.start pid) := by
  have fresh : ∀ {other token}, (Function.update system.phase pid (.creating system.issued) other).token = some token →
      other = pid ∧ token = system.issued ∨ other ≠ pid ∧ (system.phase other).token = some token := by
    intro other token read
    by_cases same : other = pid
    · subst same
      rw [Function.update_self] at read
      exact .inl ⟨rfl,(Option.some.inj read).symm⟩
    · rw [Function.update_of_ne same] at read
      exact .inr ⟨same,read⟩
  have files : ∀ other, (Function.update system.phase pid (.creating system.issued) other).file = (system.phase other).file := by
    intro other
    by_cases same : other = pid
    · subst same
      rw [Function.update_self,idle]
      rfl
    · rw [Function.update_of_ne same]
  constructor
  case issued =>
    intro other token read
    rcases fresh read with ⟨_,rfl⟩ | ⟨_,old⟩
    · exact Nat.lt_succ_self _
    · exact Nat.lt_succ_of_lt (sound.issued other token old)
  case own =>
    intro one other token first second
    rcases fresh first with ⟨rfl,rfl⟩ | ⟨_,old⟩ <;> rcases fresh second with ⟨rfl,again⟩ | ⟨_,older⟩
    · rfl
    · exact absurd (sound.issued other _ older) (Nat.lt_irrefl _)
    · exact absurd (again ▸ sound.issued one token old) (Nat.lt_irrefl _)
    · exact sound.own one other token old older
  case created =>
    intro other file read
    exact sound.created other file ((files other).symm.trans read)
  case single =>
    intro one other file first second
    exact sound.single one other file ((files one).symm.trans first) ((files other).symm.trans second)
  case linked => exact sound.linked
  case recorded =>
    intro file record read
    obtain ⟨given,owner⟩ := sound.recorded file record read
    refine ⟨Nat.lt_succ_of_lt given,?_⟩
    intro other token
    rcases fresh token with ⟨_,same⟩ | ⟨_,old⟩
    · exact absurd (same ▸ given) (Nat.lt_irrefl _)
    · exact (files other).trans (owner other old)
  case held =>
    intro other file holding
    by_cases same : other = pid
    · subst same
      have quiet : (Phase.creating system.issued).holds = some file := by
        simpa [LockSystem.start] using holding
      cases quiet
    · apply sound.held other file
      simpa [LockSystem.start,Function.update_of_ne same] using holding

theorem create_sound (sound : Sound system) (free : system.path = none) {token : Nat}
    (creating : system.phase pid = .creating token) : Sound (system.create pid token) := by
  have nobody : ∀ other file, (system.phase other).holds ≠ some file := by
    intro other file holding
    cases free.symm.trans (sound.held other file holding)
  have tokens : ∀ other, (Function.update system.phase pid (.writing token system.created) other).token =
      (system.phase other).token := by
    intro other
    by_cases same : other = pid
    · subst same
      rw [Function.update_self,creating]
      rfl
    · rw [Function.update_of_ne same]
  have fresh : ∀ {other file}, (Function.update system.phase pid (.writing token system.created) other).file = some file →
      other = pid ∧ file = system.created ∨ other ≠ pid ∧ (system.phase other).file = some file := by
    intro other file read
    by_cases same : other = pid
    · subst same
      rw [Function.update_self] at read
      exact .inl ⟨rfl,(Option.some.inj read).symm⟩
    · rw [Function.update_of_ne same] at read
      exact .inr ⟨same,read⟩
  constructor
  case issued =>
    intro other token read
    exact sound.issued other token ((tokens other).symm.trans read)
  case own =>
    intro one other token first second
    exact sound.own one other token ((tokens one).symm.trans first) ((tokens other).symm.trans second)
  case created =>
    intro other file read
    rcases fresh read with ⟨_,rfl⟩ | ⟨_,old⟩
    · exact Nat.lt_succ_self _
    · exact Nat.lt_succ_of_lt (sound.created other file old)
  case single =>
    intro one other file first second
    rcases fresh first with ⟨rfl,rfl⟩ | ⟨_,old⟩ <;> rcases fresh second with ⟨rfl,again⟩ | ⟨_,older⟩
    · rfl
    · exact absurd (sound.created other _ older) (Nat.lt_irrefl _)
    · exact absurd (again ▸ sound.created one file old) (Nat.lt_irrefl _)
    · exact sound.single one other file old older
  case linked =>
    intro file linked
    cases linked
    exact Nat.lt_succ_self _
  case recorded =>
    intro file record read
    by_cases new : file = system.created
    · subst new
      simp [LockSystem.create] at read
    · have older : (system.files file).record = some record := by simpa [LockSystem.create,Function.update_of_ne new] using read
      obtain ⟨given,owner⟩ := sound.recorded file record older
      refine ⟨given,?_⟩
      intro other held
      have kept := owner other ((tokens other).symm.trans held)
      by_cases same : other = pid
      · subst same
        rw [creating] at kept
        cases kept
      · exact (congrArg Phase.file (Function.update_of_ne same _ _)).trans kept
  case held =>
    intro other file holding
    by_cases same : other = pid
    · subst same
      have own : some system.created = some file := by
        simpa [LockSystem.create,Phase.holds] using holding
      exact own
    · refine absurd ?_ (nobody other file)
      simpa [LockSystem.create,Function.update_of_ne same] using holding

theorem write_sound (sound : Sound system) {token file : Nat} (writing : system.phase pid = .writing token file) :
    Sound (system.write pid token file) := by
  have follows : Follows (.inside token file) (system.phase pid) := by
    rw [writing]
    exact .inr ⟨rfl,rfl⟩
  have mine : (system.phase pid).token = some token := by rw [writing]; rfl
  have placed : system.path = some file := sound.held pid file (by rw [writing]; rfl)
  have moved := goes_sound sound follows (fun other same => by cases same; exact placed)
  constructor
  case issued => exact moved.issued
  case own => exact moved.own
  case created => exact moved.created
  case single => exact moved.single
  case linked => exact moved.linked
  case held => exact moved.held
  case recorded =>
    intro other record read
    by_cases same : other = file
    · subst same
      have written : record = ⟨pid,token⟩ := by
        have stored : some (⟨pid,token⟩ : LockRecord) = some record := by simpa [LockSystem.write] using read
        exact (Option.some.inj stored).symm
      subst written
      refine ⟨sound.issued pid token mine,?_⟩
      intro owner held
      have owns : owner = pid := sound.own owner pid token (token_before follows held) mine
      subst owns
      show (Function.update system.phase owner (.inside token other) owner).file = some other
      rw [Function.update_self]
      rfl
    · apply moved.recorded other record
      simpa [LockSystem.write,LockSystem.goes,Function.update_of_ne same] using read

-- One call of a process, in each of its phases.
theorem act_sound (sound : Sound system) (careful : Careful system (.act pid))
    (acted : system.act pid = some after) : Sound after := by
  have dropped : ∀ {next : Phase}, next.token = none → next.file = none → Follows next (system.phase pid) :=
    fun token file => .inl ⟨token,file⟩
  have idles : Sound (system.goes pid .idle) := goes_sound sound (dropped rfl rfl) (fun _ holding => by cases holding)
  unfold LockSystem.act at acted
  cases stands : system.phase pid with
  | dead =>
    rw [stands] at acted
    cases acted
  | idle =>
    rw [stands] at acted
    cases acted
    exact start_acquiring sound stands
  | creating token =>
    rw [stands] at acted
    dsimp only at acted
    split at acted
    · rename_i free
      cases acted
      exact create_sound sound free stands
    · cases acted
      exact quiet_sound sound stands rfl rfl rfl
  | statting token =>
    rw [stands] at acted
    dsimp only at acted
    split at acted
    · cases acted
      exact quiet_sound sound stands rfl rfl rfl
    · cases acted
      split
      · exact idles
      · exact quiet_sound sound stands rfl rfl rfl
  | reading token =>
    rw [stands] at acted
    dsimp only at acted
    split at acted
    · cases acted
      exact quiet_sound sound stands rfl rfl rfl
    · split at acted
      all_goals
        cases acted
        exact quiet_sound sound stands rfl rfl rfl
  | probing token owner =>
    rw [stands] at acted
    cases acted
    split
    · exact quiet_sound sound stands rfl rfl rfl
    · exact idles
  | unlinking token =>
    rw [stands] at acted
    cases acted
    apply unlink_sound sound (stands ▸ .inr ⟨rfl,rfl⟩) rfl
    intro other file _ linked
    exact careful pid token file rfl stands linked other
  | writing token file =>
    rw [stands] at acted
    cases acted
    exact write_sound sound stands
  | inside token file =>
    rw [stands] at acted
    cases acted
    exact quiet_sound sound stands rfl rfl rfl
  | checking token file =>
    rw [stands] at acted
    dsimp only at acted
    split at acted
    · cases acted
      exact idles
    · rename_i record read
      cases acted
      split
      · rename_i same
        obtain ⟨found,linked,stored⟩ := Option.bind_eq_some_iff.mp read
        have own := (sound.recorded found record stored).2 pid (by rw [stands,same]; rfl)
        rw [stands] at own
        cases own
        exact goes_sound sound (stands ▸ .inr ⟨rfl,rfl⟩) (fun _ holding => by cases holding; exact linked)
      · exact idles
  | releasing token file =>
    rw [stands] at acted
    cases acted
    apply unlink_sound sound (dropped rfl rfl) rfl
    intro other found apart linked holding
    have placed := sound.held pid file (by rw [stands]; rfl)
    cases linked.symm.trans placed
    exact apart (sound.single other pid file (holds_file holding) (by rw [stands]; rfl))

end moves

theorem step_sound (sound : Sound before) (careful : Careful before event) (stepped : before.step event = some after) : Sound after := by
  cases event with
  | clock now =>
    cases stepped
    exact ⟨sound.issued,sound.own,sound.created,sound.single,sound.linked,sound.recorded,sound.held⟩
  | crash pid =>
    cases stepped
    exact goes_sound sound (.inl ⟨rfl,rfl⟩) (fun _ holding => by cases holding)
  | spawn pid =>
    dsimp only [LockSystem.step] at stepped
    split at stepped
    · cases stepped
      exact goes_sound sound (.inl ⟨rfl,rfl⟩) (fun _ holding => by cases holding)
    · cases stepped
  | act pid => exact act_sound sound careful stepped

theorem careful_sound (start : Start initial) (ran : Relation.ReflTransGen CarefullyRan initial system) : Sound system := by
  induction ran with
  | refl => exact start_sound start
  | tail _ stepped ih =>
    obtain ⟨event,careful,stepped⟩ := stepped
    exact step_sound ih careful stepped

/- A careless unlink, and how exclusion is lost after it. -/

variable {system : LockSystem}

-- A process before the exclusive create of a free path is inside two calls later.
theorem enters (creating : system.phase pid = .creating token) (free : system.path = none) :
    ∃ later, Relation.ReflTransGen Ran system later ∧ (∃ file, later.phase pid = .inside token file) ∧
      ∀ other, other ≠ pid → later.phase other = system.phase other := by
  have first : system.step (.act pid) = some (system.create pid token) := by
    simp [LockSystem.step,LockSystem.act,creating,free]
  have writing : (system.create pid token).phase pid = .writing token system.created := Function.update_self _ _ _
  have second : (system.create pid token).step (.act pid) = some ((system.create pid token).write pid token system.created) := by
    simp [LockSystem.step,LockSystem.act,writing]
  refine ⟨_,.tail (.single ⟨_,first⟩) ⟨_,second⟩,⟨system.created,Function.update_self _ _ _⟩,?_⟩
  intro other apart
  simp [LockSystem.write,LockSystem.create,Function.update_of_ne apart]

-- After its unlink a reclaimer is inside three calls later.
theorem reclaims (unlinking : system.phase pid = .unlinking token) :
    ∃ later, Relation.ReflTransGen Ran system later ∧ (∃ file, later.phase pid = .inside token file) ∧
      ∀ other, other ≠ pid → later.phase other = system.phase other := by
  have first : system.step (.act pid) = some (system.unlink pid (.creating token)) := by
    simp [LockSystem.step,LockSystem.act,unlinking]
  have creating : (system.unlink pid (.creating token)).phase pid = .creating token := Function.update_self _ _ _
  obtain ⟨later,ran,entered,others⟩ := enters creating rfl
  refine ⟨later,.head ⟨_,first⟩ ran,entered,?_⟩
  intro other apart
  rw [others other apart]
  exact Function.update_of_ne apart _ _

theorem both_inside (apart : one ≠ other) (first : system.phase one = .inside token file)
    (second : system.phase other = .inside token' file') : ¬ Excludes system := fun excludes =>
  apart (excludes one other token file token' file' first second)

theorem careless_breaks (careless : ¬ Careful system event) :
    ∃ later, Relation.ReflTransGen Ran system later ∧ ¬ Excludes later := by
  unfold Careful at careless
  push Not at careless
  obtain ⟨pid,token,file,_,unlinking,_,owner,holding⟩ := careless
  have apart : owner ≠ pid := by
    rintro rfl
    rw [unlinking] at holding
    cases holding
  cases stands : system.phase owner with
  | inside token' file' =>
    obtain ⟨later,ran,⟨_,entered⟩,others⟩ := reclaims unlinking
    exact ⟨later,ran,both_inside apart ((others owner apart).trans stands) entered⟩
  | writing token' file' =>
    have first : system.step (.act owner) = some (system.write owner token' file') := by
      simp [LockSystem.step,LockSystem.act,stands]
    have still : (system.write owner token' file').phase pid = .unlinking token :=
      (Function.update_of_ne apart.symm _ _).trans unlinking
    obtain ⟨later,ran,⟨_,entered⟩,others⟩ := reclaims still
    exact ⟨later,.head ⟨_,first⟩ ran,both_inside apart ((others owner apart).trans (Function.update_self _ _ _)) entered⟩
  | releasing token' file' =>
    -- The late release unlinks the reclaimer's file, and the owner comes back.
    obtain ⟨middle,ran,⟨file,entered⟩,others⟩ := reclaims unlinking
    have held : middle.phase owner = .releasing token' file' := (others owner apart).trans stands
    have release : middle.step (.act owner) = some (middle.unlink owner .idle) := by
      simp [LockSystem.step,LockSystem.act,held]
    have idle : (middle.unlink owner .idle).phase owner = .idle := Function.update_self _ _ _
    have again : (middle.unlink owner .idle).step (.act owner) = some ((middle.unlink owner .idle).start owner) := by
      simp [LockSystem.step,LockSystem.act,idle]
    have creating : ((middle.unlink owner .idle).start owner).phase owner = .creating middle.issued := Function.update_self _ _ _
    obtain ⟨later,back,⟨_,returned⟩,kept⟩ := enters creating rfl
    have stays : later.phase pid = .inside token file := by
      rw [kept pid apart.symm]
      simpa [LockSystem.start,LockSystem.unlink,Function.update_of_ne apart.symm] using entered
    exact ⟨later,((ran.tail ⟨_,release⟩).tail ⟨_,again⟩).trans back,both_inside apart returned stays⟩
  | _ =>
    rw [stands] at holding
    cases holding

theorem lock_excludes_exact (start : Start initial) :
    (∀ system, Relation.ReflTransGen CarefullyRan initial system → Excludes system) ∧
    ∀ system event, Relation.ReflTransGen Ran initial system → ¬ Careful system event →
      ∃ later, Relation.ReflTransGen Ran system later ∧ ¬ Excludes later :=
  ⟨fun _ ran => sound_excludes (careful_sound start ran),fun _ _ _ careless => careless_breaks careless⟩

/- Two reclaimers of the lock that a dead owner left five minutes ago. -/

def leftLock : LockSystem :=
  {now := 301 * 1000000,path := some 0,files := fun file => ⟨0,if file = 0 then some ⟨9,0⟩ else none⟩,created := 1,issued := 1,
   phase := fun pid => if pid = 9 then .dead else .idle}

theorem leftLock_start : Start leftLock where
  outside := by
    intro pid
    by_cases nine : pid = 9 <;> simp [leftLock,nine]
  linked := by
    intro file linked
    cases linked
    exact Nat.one_pos
  recorded := by
    intro file record read
    by_cases first : file = 0
    · simp only [leftLock,first,if_true,Option.some.injEq] at read
      subst read
      exact Nat.one_pos
    · simp [leftLock,first] at read

theorem lock_excludes_exact_sample : (∀ system, Relation.ReflTransGen CarefullyRan leftLock system → Excludes system) ∧
    ∀ system event, Relation.ReflTransGen Ran leftLock system → ¬ Careful system event →
      ∃ later, Relation.ReflTransGen Ran system later ∧ ¬ Excludes later :=
  lock_excludes_exact leftLock_start

def LockSystem.run (system : LockSystem) (events : List Event) : Option LockSystem := events.foldlM LockSystem.step system

theorem run_reaches {system after : LockSystem} (ran : system.run events = some after) :
    Relation.ReflTransGen Ran system after := by
  induction events generalizing system with
  | nil =>
    cases ran
    exact .refl
  | cons event events ih =>
    obtain ⟨next,stepped,later⟩ := Option.bind_eq_some_iff.mp ran
    exact .head ⟨event,stepped⟩ (ih later)

-- Both find the owner dead; the second unlinks the file of the first.
def twoReclaimers : List Event :=
  List.replicate 5 (.act 1) ++ List.replicate 5 (.act 2) ++ List.replicate 3 (.act 1) ++ List.replicate 3 (.act 2)

theorem two_inside : ¬ ∀ initial system, Start initial → Relation.ReflTransGen Ran initial system → Excludes system := by
  intro claim
  have ends : (leftLock.run twoReclaimers).map (fun system => (system.phase 1,system.phase 2)) =
      some (.inside 1 1,.inside 2 2) := by decide
  obtain ⟨system,ran,phases⟩ := Option.map_eq_some_iff.mp ends
  obtain ⟨first,second⟩ := Prod.mk.inj phases
  exact absurd (claim leftLock system leftLock_start (run_reaches ran) 1 2 1 1 2 2 first second) (by decide)

end OpenStock.SymbolMemory.Locks
