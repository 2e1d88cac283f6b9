import LoomClient.Compat.SystemInformation
import LoomClient.Lib.Bytes
import LoomClient.Lib.Loop
import LoomClient.Transport.Failures

namespace LoomClient.Compat.Backup
open Lib Lib.Loop Transport
variable {φ : Type}

structure BackupEntry where
  id : String
  filename : Option String
  deriving DecidableEq

structure BackupData where
  filename : String
  content : Bytes
  deriving DecidableEq

inductive Request where
  | triggerBackup
  | listBackups
  | downloadBackup (id : String)
  deriving DecidableEq

-- How the requests and the sleeps of a call end: of the trigger's answer the `id`, as
-- `str` writes it.
structure Daemon (φ : Type) where
  trigger : Except φ (Option String)
  list : Nat → Except φ (List BackupEntry)
  sleep : Nat → Except φ Unit
  download : String → Except φ Bytes

structure Call (φ : Type) where
  sent : List Request
  result : Except φ (Option BackupData)

-- The minute of a moment, in UTC.
structure Minute where
  year : Nat
  month : Fin 13
  day : Fin 32
  hour : Fin 24
  minute : Fin 60

def twoDigits (n : Nat) : String := if n < 10 then "0" ++ toString n else toString n

-- `strftime("%Y-%m-%d-%H%M")`
def Minute.stamp (t : Minute) : String :=
  toString t.year ++ "-" ++ twoDigits t.month ++ "-" ++ twoDigits t.day ++ "-" ++ twoDigits t.hour ++ twoDigits t.minute

def createBackupPollAttempts : Nat := 120

structure Identity where
  name : String
  serial : Option String
  information : LoomSystemInformation

def orElse (first : String) (rest : Option String) (last : String) : String :=
  if first ≠ "" then first else match rest.filter (· ≠ "") with
    | some s => s
    | none => last

def backupFilename (c : Identity) (now : Minute) : String :=
  let i := c.information
  let hostname := orElse i.hostname i.serial (orElse "" c.serial (orElse c.name none "CCU"))
  let version := orElse i.version none "unknown"
  hostname ++ "-" ++ version ++ "-" ++ now.stamp ++ ".sbk"

def archiveFilename (c : Identity) (now : Minute) (entry : BackupEntry) : String :=
  orElse (entry.filename.getD "") none (backupFilename c now)

section Code
variable (kind : φ → ExceptionClass) (d : Daemon φ)

-- `except Exception`: all but a cancellation.
def caught (failure : φ) : Bool := kind failure ≠ .cancelledError

def pass (id : String) (k : Nat) (_ : Unit) : Turn Unit (Nat × Except φ BackupEntry) :=
  let slept : Turn Unit (Nat × Except φ BackupEntry) := match d.sleep k with
    | .ok () => .again ()
    | .error failure => .done (k + 1,.error failure)
  match d.list k with
  | .ok entries => match entries.find? (·.id == id) with
    | some entry => .done (k + 1,.ok entry)
    | none => slept
  | .error failure => if caught kind failure then slept else .done (k + 1,.error failure)

def downloaded (c : Identity) (now : Minute) (id : String) (entry : BackupEntry) : Except φ (Option BackupData) :=
  match d.download id with
  | .ok content => .ok (some ⟨archiveFilename c now entry,content⟩)
  | .error failure => if caught kind failure then .ok none else .error failure

def createBackupAndDownload (c : Identity) (now : Minute) : Call φ :=
  match d.trigger with
  | .error failure =>
    ⟨[.triggerBackup],
      if (kind failure).isA .loomForbiddenError || !caught kind failure then .error failure else .ok none⟩
  | .ok reported =>
    let id := reported.getD ""
    if id = "" then ⟨[.triggerBackup],.ok none⟩
    else match loop (pass kind d id) createBackupPollAttempts 0 () with
      | none => ⟨.triggerBackup :: List.replicate createBackupPollAttempts .listBackups,.ok none⟩
      | some (polls,.error failure) => ⟨.triggerBackup :: List.replicate polls .listBackups,.error failure⟩
      | some (polls,.ok entry) =>
        ⟨.triggerBackup :: List.replicate polls .listBackups ++ [.downloadBackup id],downloaded kind d c now id entry⟩

end Code

section Spec
variable (kind : φ → ExceptionClass) (d : Daemon φ)

def Reports (id : String) : Prop := d.trigger = .ok (some id) ∧ id ≠ ""

def Lists (id : String) (n : Nat) (entry : BackupEntry) : Prop :=
  ∃ entries, d.list n = .ok entries ∧ entries.find? (·.id == id) = some entry

def PassedOver (id : String) (n : Nat) : Prop :=
  ((∃ entries, d.list n = .ok entries ∧ entries.find? (·.id == id) = none) ∨
    ∃ failure, d.list n = .error failure ∧ caught kind failure = true) ∧ d.sleep n = .ok ()

def FirstListed (id : String) (n : Nat) (entry : BackupEntry) : Prop :=
  (∀ k < n, PassedOver kind d id k) ∧ Lists d id n entry

-- One trigger, lists until the archive is there or the attempts are spent, at most one download.
structure Taken (c : Identity) (now : Minute) (r : Call φ) : Prop where
  sent : ∃ polls ≤ createBackupPollAttempts, ∃ rest, r.sent = .triggerBackup :: List.replicate polls .listBackups ++ rest ∧
    (rest = [] ∨ ∃ id n entry, Reports d id ∧ FirstListed kind d id n entry ∧ polls = n + 1 ∧ rest = [.downloadBackup id])
  taken : ∀ data, r.result = .ok (some data) ↔
    ∃ id n entry content, Reports d id ∧ n < createBackupPollAttempts ∧ FirstListed kind d id n entry ∧
      d.download id = .ok content ∧ data = ⟨archiveFilename c now entry,content⟩
  raised : ∀ failure, r.result = .error failure →
    (d.trigger = .error failure ∧ (kind failure).isA .loomForbiddenError = true) ∨ kind failure = .cancelledError ∨
      ∃ n, d.sleep n = .error failure

end Spec

section Proof
variable {kind : φ → ExceptionClass} {d : Daemon φ} {c : Identity} {now : Minute} {id : String}

variable (kind) in
theorem caught_or (failure : φ) : caught kind failure = true ∨ kind failure = .cancelledError := by
  by_cases cancelled : kind failure = .cancelledError
  · exact .inr cancelled
  · exact .inl (by simp [caught,cancelled])

theorem pass_again : pass kind d id n () = .again () ↔ PassedOver kind d id n := by
  unfold pass PassedOver
  cases answered : d.list n with
  | ok entries => cases found : entries.find? (·.id == id) <;> cases slept : d.sleep n <;> simp [found,-List.find?_eq_none]
  | error failure => cases passed : caught kind failure <;> cases slept : d.sleep n <;> simp [passed]

theorem pass_found : pass kind d id n () = .done (polls,.ok entry) ↔ polls = n + 1 ∧ Lists d id n entry := by
  unfold pass Lists
  cases answered : d.list n with
  | ok entries =>
    cases found : entries.find? (·.id == id) <;> cases slept : d.sleep n <;> simp [found,eq_comm]
  | error failure => cases passed : caught kind failure <;> cases slept : d.sleep n <;> simp [passed]

theorem pass_raised {failure : φ} (ended : pass kind d id n () = .done (polls,.error failure)) :
    polls = n + 1 ∧ (kind failure = .cancelledError ∨ d.sleep n = .error failure) := by
  unfold pass at ended
  cases answered : d.list n with
  | ok entries =>
    cases found : entries.find? (·.id == id) <;> cases slept : d.sleep n <;> simp_all
  | error raised =>
    rcases caught_or kind raised with passed | cancelled
    · cases slept : d.sleep n <;> simp_all
    · have passed : caught kind raised = false := by simp [caught,cancelled]
      simp only [answered,passed,Bool.false_eq_true,if_false,Turn.done.injEq,Prod.mk.injEq,Except.error.injEq] at ended
      obtain ⟨rfl,rfl⟩ := ended
      exact ⟨rfl,.inl cancelled⟩

theorem passes_passed (passes : Passes (pass kind d id) 0 () n ()) : ∀ k < n, PassedOver kind d id k := by
  refine passes_keep (fun n _ => ∀ k < n, PassedOver kind d id k) (fun k before => ?_) passes ?_
  · exact absurd before (Nat.not_lt_zero k)
  · rintro n s next earlier again k before
    rcases Nat.lt_succ_iff_lt_or_eq.mp before with before | rfl
    · exact earlier k before
    · exact pass_again.mp again

theorem passed_passes (passed : ∀ k < n, PassedOver kind d id k) : Passes (pass kind d id) 0 () n () := by
  induction n with
  | zero => exact .here
  | succ n ih =>
    have earlier := ih fun k before => passed k (Nat.lt_succ_of_lt before)
    exact passes_step earlier (pass_again.mpr (passed n (Nat.lt_succ_self n)))

theorem polled_found : loop (pass kind d id) createBackupPollAttempts 0 () = some (polls,.ok entry) ↔
    ∃ n < createBackupPollAttempts, polls = n + 1 ∧ FirstListed kind d id n entry := by
  rw [loop_exact]
  constructor
  · rintro ⟨n,⟨⟩,passes,ended,bound⟩
    obtain ⟨same,lists⟩ := pass_found.mp ended
    exact ⟨n,by omega,same,passes_passed passes,lists⟩
  · rintro ⟨n,bound,same,passed,lists⟩
    exact ⟨n,(),passed_passes passed,pass_found.mpr ⟨same,lists⟩,by omega⟩

theorem polled_raised {failure : φ} (polled : loop (pass kind d id) createBackupPollAttempts 0 () = some (polls,.error failure)) :
    polls ≤ createBackupPollAttempts ∧ (kind failure = .cancelledError ∨ ∃ n, d.sleep n = .error failure) := by
  obtain ⟨n,⟨⟩,_,ended,bound⟩ := loop_exact.mp polled
  obtain ⟨rfl,cause⟩ := pass_raised ended
  exact ⟨by omega,cause.imp_right fun slept => ⟨n,slept⟩⟩

theorem first_listed_unique (first : FirstListed kind d id n entry) (other : FirstListed kind d id m entry') :
    n = m ∧ entry = entry' := by
  have apart : ∀ {n m entry entry'}, FirstListed kind d id n entry → FirstListed kind d id m entry' → ¬n < m := by
    intro n m entry entry' first other before
    obtain ⟨entries,answered,found⟩ := first.2
    rcases (other.1 n before).1 with ⟨same,again,missing⟩ | ⟨failure,failed,_⟩
    · cases answered.symm.trans again
      rw [found] at missing
      cases missing
    · cases answered.symm.trans failed
  have level : n = m := Nat.le_antisymm (not_lt.mp (apart other first)) (not_lt.mp (apart first other))
  subst level
  obtain ⟨entries,answered,found⟩ := first.2
  obtain ⟨same,again,found'⟩ := other.2
  cases answered.symm.trans again
  exact ⟨rfl,Option.some.inj (found.symm.trans found')⟩

theorem downloaded_some : downloaded kind d c now id entry = .ok (some data) ↔
    ∃ content, d.download id = .ok content ∧ data = ⟨archiveFilename c now entry,content⟩ := by
  unfold downloaded
  cases fetched : d.download id with
  | ok content => simp [eq_comm]
  | error failure => cases passed : caught kind failure <;> simp [passed]

theorem downloaded_raised {failure : φ} (raised : downloaded kind d c now id entry = .error failure) :
    kind failure = .cancelledError := by
  unfold downloaded at raised
  split at raised
  · cases raised
  · split at raised
    · cases raised
    · rename_i escaped
      cases raised
      rcases caught_or kind failure with passed | cancelled
      · exact absurd passed escaped
      · exact cancelled

theorem taken_none {result : Except φ (Option BackupData)} (nothing : ∀ data, result ≠ .ok (some data))
    (never : ∀ id n entry, Reports d id → n < createBackupPollAttempts → ¬FirstListed kind d id n entry) (data : BackupData) :
    result = .ok (some data) ↔ ∃ id n entry content, Reports d id ∧ n < createBackupPollAttempts ∧
      FirstListed kind d id n entry ∧ d.download id = .ok content ∧ data = ⟨archiveFilename c now entry,content⟩ := by
  constructor
  · intro same
    exact absurd same (nothing data)
  · rintro ⟨id,n,entry,_,reported,bound,listed,_⟩
    exact absurd listed (never id n entry reported bound)

theorem reports_unique (reported : d.trigger = .ok found) (other : Reports d id) : id = found.getD "" := by
  cases reported.symm.trans other.1
  rfl

theorem backup_taken (kind : φ → ExceptionClass) (d : Daemon φ) (c : Identity) (now : Minute) :
    Taken kind d c now (createBackupAndDownload kind d c now) := by
  unfold createBackupAndDownload
  split
  · -- The trigger fails.
    rename_i failure failed
    have silent : ∀ id, ¬Reports d id := by
      rintro id ⟨reported,_⟩
      cases failed.symm.trans reported
    refine ⟨⟨0,Nat.zero_le _,[],rfl,.inl rfl⟩,?_,?_⟩
    · refine taken_none (fun data same => ?_) fun id _ _ reported => absurd reported (silent id)
      split at same <;> cases same
    · intro raised same
      split at same
      · rename_i escapes
        cases same
        rcases Bool.or_eq_true _ _ |>.mp escapes with forbidden | escaped
        · exact .inl ⟨failed,forbidden⟩
        · rcases caught_or kind failure with passed | cancelled
          · simp [passed] at escaped
          · exact .inr (.inl cancelled)
      · cases same
  · rename_i reported answered
    dsimp only
    split
    · -- No id to wait for.
      rename_i blank
      refine ⟨⟨0,Nat.zero_le _,[],rfl,.inl rfl⟩,?_,fun raised same => nomatch same⟩
      refine taken_none (fun data same => nomatch same) fun id n entry reports => ?_
      exact absurd (reports_unique answered reports ▸ blank) reports.2
    · rename_i full
      have reports : Reports d (reported.getD "") := by
        cases reported with
        | none => exact absurd rfl full
        | some id => exact ⟨answered,full⟩
      cases polled : loop (pass kind d (reported.getD "")) createBackupPollAttempts 0 () with
      | none =>
        refine ⟨⟨createBackupPollAttempts,le_refl _,[],by simp,.inl rfl⟩,?_,fun raised same => nomatch same⟩
        refine taken_none (fun data same => nomatch same) fun id n entry other bound listed => ?_
        have same := reports_unique answered other
        subst same
        cases polled.symm.trans (polled_found.mpr ⟨n,bound,rfl,listed⟩)
      | some outcome =>
        rcases outcome with ⟨polls,failure | entry⟩
        · obtain ⟨bound,cause⟩ := polled_raised polled
          refine ⟨⟨polls,bound,[],by simp,.inl rfl⟩,?_,fun raised same => ?_⟩
          · refine taken_none (fun data same => nomatch same) fun id n entry other bound listed => ?_
            have same := reports_unique answered other
            subst same
            cases polled.symm.trans (polled_found.mpr ⟨n,bound,rfl,listed⟩)
          · cases same
            exact .inr cause
        · obtain ⟨n,bound,rfl,listed⟩ := polled_found.mp polled
          refine ⟨⟨n + 1,by omega,[.downloadBackup (reported.getD "")],rfl,.inr ⟨_,n,entry,reports,listed,rfl,rfl⟩⟩,?_,?_⟩
          · intro data
            rw [downloaded_some]
            constructor
            · rintro ⟨content,fetched,same⟩
              exact ⟨_,n,entry,content,reports,bound,listed,fetched,same⟩
            · rintro ⟨id,m,other,content,again,_,first,fetched,same⟩
              have level := reports_unique answered again
              subst level
              obtain ⟨_,rfl⟩ := first_listed_unique listed first
              exact ⟨content,fetched,same⟩
          · exact fun failure raised => .inr (.inl (downloaded_raised raised))

example : createBackupAndDownload (fun e => e)
    (⟨.ok (some "b1"),fun k => if k = 0 then .ok [] else if k = 1 then .error .loomTransportError else .ok [⟨"b1",none⟩],
      fun _ => .ok (),fun _ => .ok [1,2]⟩ : Daemon ExceptionClass)
    ⟨"ccu",none,{unreadInformation with version := "3.75"}⟩ ⟨2026,1,2,3,4⟩ =
    ⟨[.triggerBackup,.listBackups,.listBackups,.listBackups,.downloadBackup "b1"],
      .ok (some ⟨"ccu-3.75-2026-01-02-0304.sbk",[1,2]⟩)⟩ := by
  rfl

end Proof

end LoomClient.Compat.Backup
