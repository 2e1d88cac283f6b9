import LoomClient.Client.CentralId
import LoomClient.Client.Daemon
import LoomClient.Lib.Transition

namespace LoomClient.Compat
open Lib Wire Store Client
variable {V : Type}

-- A feature is reported with whether it is available.
structure SystemCcuEntry where
  name : Option String
  serial : Option String
  version : Option String
  features : Option (Dict String Bool)
  systemType : Option String
  model : Option String
  hostname : Option String
  isHaApp : Bool
  authEnabled : Option Bool
  httpsRedirectEnabled : Option Bool
  deriving DecidableEq

inductive CcuType where
  | openccuLite
  | openccu
  | ccu
  | unknown
  deriving DecidableEq, Repr

structure LoomSystemInformation where
  serial : Option String
  version : String
  availableInterfaces : List String
  hostname : String
  isHaApp : Bool
  authEnabled : Option Bool
  httpsRedirectEnabled : Option Bool
  ccuType : CcuType
  backupAvailable : Option Bool
  systemUpdateAvailable : Option Bool
  deriving DecidableEq, Repr

structure StrMethods where
  lower : String → String
  strip : String → String

def serialSuffixLen : Nat := 10

def serialSuffixOf (text : StrMethods) (serial : String) : String :=
  let lowered := (text.lower serial).toList
  if lowered.length ≤ serialSuffixLen then String.ofList lowered
  else String.ofList (lowered.drop (lowered.length - serialSuffixLen))

-- `set_serial`
def recordedSuffix (text : StrMethods) (serial : Option String) : String :=
  match truthy serial with
  | some serial => serialSuffixOf text serial
  | none => ""

def ccuTypeForCentral (text : StrMethods) (systemType model : Option String) : CcuType :=
  let family := text.lower (text.strip (model.getD ""))
  if text.lower (text.strip (systemType.getD "")) = "openccu-lite" then .openccuLite
  else if family = "openccu" then .openccu
  else if family = "ccu" then .ccu
  else .unknown

def featureBackupCreate : String := "system.backup.create"
def featureSystemUpdateInstall : String := "hub.system_update.install"

-- No such key is an older daemon, never a feature that is missing.
def featureAvailable (features : Dict String Bool) (key : String) : Option Bool := features.get? key

def unreadInformation : LoomSystemInformation := ⟨none,"",[],"",false,none,none,.unknown,none,none⟩

-- The serial the integration injected wins over the daemon's.
def adoptedSerial (injected : Option String) (entry : Option SystemCcuEntry) : Option String :=
  (truthy injected).or (entry.bind (·.serial))

-- The CCU's own version, or the daemon's until it has reached the CCU.
def systemInformationOf (text : StrMethods) (injected : Option String) (daemonVersion : String) (entry : Option SystemCcuEntry)
    (interfaces : List String) : LoomSystemInformation :=
  let features := (entry.bind (·.features)).getD .empty
  { serial := adoptedSerial injected entry
    version := (truthy (entry.bind (·.version))).getD daemonVersion
    availableInterfaces := interfaces
    hostname := (entry.bind (·.hostname)).getD ""
    isHaApp := (entry.map (·.isHaApp)).getD false
    authEnabled := entry.bind (·.authEnabled)
    httpsRedirectEnabled := entry.bind (·.httpsRedirectEnabled)
    ccuType := ccuTypeForCentral text (entry.bind (·.systemType)) (entry.bind (·.model))
    backupAvailable := featureAvailable features featureBackupCreate
    systemUpdateAvailable := featureAvailable features featureSystemUpdateInstall }

-- The entry named as the adapter, or the first of all.
def ccuEntry (name : String) (ccus : List SystemCcuEntry) : Option SystemCcuEntry :=
  (ccus.find? fun c => c.name = some name).or ccus.head?

-- The serial has been recorded by then.
structure SystemRefresh where
  daemonVersion : String
  ccus : List SystemCcuEntry

structure CentralSession (V : Type) where
  session : Session V
  information : LoomSystemInformation
  refreshes : List SystemRefresh

-- A failed `GET /info` ends a refresh before it has done anything. The other two reads may fail.
inductive CentralAction (V : Type) where
  | session (action : Action V)
  | readCcus (daemonVersion : String) (ccus : Option (List SystemCcuEntry))
  | readInterfaces (refresh : Nat) (interfaces : Option (List String))

structure CentralSetup where
  name : String
  serial : Option String

namespace CentralSession
variable (upstream : Upstream) (text : StrMethods) (setup : CentralSetup)

def initial (maxDevices : Nat) (serialSuffix : String) : CentralSession V :=
  ⟨.initial maxDevices setup.name serialSuffix,unreadInformation,[]⟩

def store (x : CentralSession V) : LoomStore V := x.session.adapter.store

def setSerial (x : CentralSession V) (serial : Option String) : CentralSession V :=
  {x with session.adapter.store.serialSuffix := recordedSuffix text serial}

def step (x : CentralSession V) : CentralAction V → Option (CentralSession V)
  | .session action => (advance upstream x.session action).map fun moved => {x with session := moved.2}
  | .readCcus daemonVersion ccus =>
    let entries := ccus.getD []
    some {x.setSerial text (adoptedSerial setup.serial (ccuEntry setup.name entries)) with
      refreshes := x.refreshes ++ [⟨daemonVersion,entries⟩]}
  | .readInterfaces i interfaces => match x.refreshes[i]? with
    | none => none
    | some refresh => some {x with
        information := systemInformationOf text setup.serial refresh.daemonVersion (ccuEntry setup.name refresh.ccus)
          (interfaces.getD [])
        refreshes := x.refreshes.eraseIdx i}

end CentralSession

def namedCentrals (reported : List String) : Set String := {name | name ∈ reported ∧ name ≠ ""}

-- The system list has each central once, in whatever order, and a snapshot of the whole daemon has
-- interfaces of each.
def AnswersReport (reported : List String) (answers : Answers V) : Prop :=
  (∀ entries : List (Option String), answers .systemCcus = some entries → (entries.map (·.getD "")).Perm reported) ∧
    ∀ fetch snapshot, answers (.snapshot fetch none) = some snapshot → named (interfaceNames snapshot) = namedCentrals reported

def Reports (reported : List String) : CentralAction V → Prop
  | .session (.resume _ answers) => AnswersReport reported answers
  | .session (.resumeDispatch answers) => AnswersReport reported answers
  | .session (.call (.loadSnapshot snapshot)) => named (interfaceNames snapshot) = namedCentrals reported
  | .session action => Unforced action
  | .readCcus _ ccus => ∀ entries, ccus = some entries → (entries.map (·.name.getD "")).Perm reported
  | .readInterfaces _ _ => True

-- The pinned one, and before that the one that any of the rules would pin.
def PinnedCentral (s : LoomStore V) (reported : Set String) (central : String) : Prop :=
  (s.centralId ≠ "" ∧ central = s.centralId) ∨ (s.centralId = "" ∧ Designates s.centralName reported central)

def EntryOf (pinned : String → Prop) (ccus : List SystemCcuEntry) : Option SystemCcuEntry → Prop
  | some entry => entry ∈ ccus ∧ ∃ central, entry.name = some central ∧ pinned central
  | none => ∀ entry ∈ ccus, ∀ central, entry.name = some central → ¬ pinned central

-- Once pinned, always pinned; and what is adopted of the system information is the pinned central's
-- own, or nobody's.
structure CentralLaw (text : StrMethods) (setup : CentralSetup) (reported : List String) (x : CentralSession V)
    (a : CentralAction V) (y : CentralSession V) : Prop where
  kept : x.store.centralId ≠ "" → y.store.centralId = x.store.centralId
  pinned : y.store.centralId ≠ x.store.centralId → Designates setup.name (namedCentrals reported) y.store.centralId
  serial : ∀ daemonVersion ccus, a = .readCcus daemonVersion ccus →
    ∃ entry, EntryOf (PinnedCentral x.store (namedCentrals reported)) (ccus.getD []) entry ∧
      y.store.serialSuffix = recordedSuffix text (adoptedSerial setup.serial entry)
  information : ∀ i interfaces refresh, a = .readInterfaces i interfaces → x.refreshes[i]? = some refresh →
    ∃ entry, EntryOf (PinnedCentral x.store (namedCentrals reported)) refresh.ccus entry ∧
      y.information = systemInformationOf text setup.serial refresh.daemonVersion entry (interfaces.getD [])
  apart : ∀ action, a = .session action → y.store.serialSuffix = x.store.serialSuffix ∧ y.information = x.information

-- The daemon has no central, or the configured one among others, or a single one.
def Matched (configured : String) (reported : List String) : Prop :=
  reported = [] ∨ (configured ≠ "" ∧ configured ∈ reported) ∨ ∃ only, only ≠ "" ∧ reported = [only]

theorem ccu_names_reported {entries : List (Option String)} (lists : (entries.map (·.getD "")).Perm reported) :
    named (ccuNames entries) = namedCentrals reported := by
  ext name
  have listed : name ∈ entries.map (·.getD "") ↔ name ∈ reported := lists.mem_iff
  simp only [named,namedCentrals,Set.mem_ofPred_eq,← listed,List.mem_map]
  constructor
  · intro member
    obtain ⟨entry,here,found⟩ := List.mem_filterMap.mp member
    obtain ⟨rfl,full⟩ := truthy_some found
    exact ⟨⟨_,here,rfl⟩,full⟩
  · intro member
    obtain ⟨⟨entry,here,same⟩,full⟩ := member
    cases entry with
    | none => exact absurd same.symm full
    | some other =>
      change other = name at same
      subst same
      exact List.mem_filterMap.mpr ⟨_,here,by simp [truthy,full]⟩

theorem nothing_designated : ¬ Designates configured (named []) central :=
  fun designated => absurd (designates_reported designated) List.not_mem_nil

section Client
variable {upstream : Upstream}

theorem reply_central {walk : Coroutine V} {answers : Answers V} (report : AnswersReport reported answers)
    (waits : Waits upstream walk a)
    (moved : Adapter.CentralMoves (replyTurn answers walk).1 (replyTurn answers walk).2 a b) :
    b.store.centralId = a.store.centralId ∨ Designates a.store.centralName (namedCentrals reported) b.store.centralId := by
  have unnamed : (replyTurn answers walk).2 = [] → b.store.centralId = a.store.centralId := by
    intro empty
    rcases moved.chosen with same | designated
    · exact same
    · rw [empty] at designated
      exact absurd designated nothing_designated
  cases walk with
  | ask read next =>
    cases read with
    | systemCcus =>
      cases reply : answers .systemCcus with
      | none => exact .inl (unnamed (by simp [replyTurn,reportedNames,reply]))
      | some entries =>
        have names : (replyTurn answers (.ask .systemCcus next)).2 = ccuNames entries := by
          simp [replyTurn,reportedNames,reply]
        have chosen := moved.chosen
        rw [names,ccu_names_reported (report.1 entries reply)] at chosen
        exact chosen
    | snapshot fetch central =>
      cases central with
      | none =>
        cases reply : answers (.snapshot fetch none) with
        | none => exact .inl (unnamed (by simp [replyTurn,reportedNames,reply]))
        | some snapshot =>
          have names : (replyTurn answers (.ask (.snapshot fetch none) next)).2 = interfaceNames snapshot := by
            simp [replyTurn,reportedNames,reply]
          have chosen := moved.chosen
          rw [names,report.2 fetch snapshot reply] at chosen
          exact chosen
      -- A scoped snapshot is asked for once the central is known.
      | some central => exact .inl (moved.pinned (by simp [replyTurn]) waits.1)
    | _ => exact .inl (unnamed rfl)
  | _ => exact .inl (unnamed rfl)

theorem session_central {x y : Session V} (holding : Holding upstream x) (report : Reports reported (.session action))
    (moved : advance upstream x action = some (made,y)) :
    (y.adapter.store.centralId = x.adapter.store.centralId ∨
        Designates x.adapter.store.centralName (namedCentrals reported) y.adapter.store.centralId) ∧
      y.adapter.store.centralName = x.adapter.store.centralName ∧
      y.adapter.store.serialSuffix = x.adapter.store.serialSuffix ∧ Holding upstream y := by
  have unforced : Unforced action := by
    cases action with
    | call operation =>
      cases operation with
      | setCentralId => exact report
      | _ => trivial
    | _ => trivial
  obtain ⟨turned,after⟩ := advance_central holding unforced moved
  refine ⟨?_,turned.fixed.1,turned.fixed.2,after⟩
  have unnamed : (turn x action).2 = [] → y.adapter.store.centralId = x.adapter.store.centralId := by
    intro empty
    rcases turned.chosen with same | designated
    · exact same
    · rw [empty] at designated
      exact absurd designated nothing_designated
  cases action with
  | call operation =>
    cases operation with
    | loadSnapshot snapshot =>
      have chosen := turned.chosen
      rw [show (turn x (.call (.loadSnapshot snapshot))).2 = interfaceNames snapshot from rfl,
        show named (interfaceNames snapshot) = namedCentrals reported from report] at chosen
      exact chosen
    | _ => exact .inl (unnamed rfl)
  | resume task answers =>
    cases found : x.tasks[task]? with
    | none => exact .inl (unnamed (by simp [turn,found]))
    | some suspended =>
      simp only [turn,found] at turned
      exact reply_central report (holding.tasks suspended (List.mem_of_getElem? found)) turned
  | resumeDispatch answers =>
    cases found : x.dispatching with
    | none => exact .inl (unnamed (by simp [turn,found]))
    | some suspended =>
      simp only [turn,found] at turned
      exact reply_central report (holding.dispatching suspended found) turned
  | _ => exact .inl (unnamed rfl)

end Client

def ReadOf (reported : List String) (ccus : List SystemCcuEntry) : Prop :=
  ccus = [] ∨ (ccus.map (·.name.getD "")).Perm reported

theorem name_of_full {entry : SystemCcuEntry} (same : entry.name.getD "" = name) (full : name ≠ "") : entry.name = some name := by
  cases found : entry.name with
  | none =>
    rw [found] at same
    exact absurd same.symm full
  | some other =>
    rw [found] at same
    exact congrArg some same

-- Where the name matches, or there is but one central, the entry is the designated one's.
theorem entry_designated (matched : Matched configured reported) (listed : ReadOf reported ccus) :
    EntryOf (Designates configured (namedCentrals reported)) ccus (ccuEntry configured ccus) := by
  rcases listed with rfl | lists
  · exact fun _ member => absurd member List.not_mem_nil
  · rcases matched with rfl | ⟨full,known⟩ | ⟨only,full,rfl⟩
    · rw [List.map_eq_nil_iff.mp (List.perm_nil.mp lists)]
      exact fun _ member => absurd member List.not_mem_nil
    · obtain ⟨entry,member,same⟩ := List.mem_map.mp (lists.mem_iff.mpr known)
      have hit : (ccus.find? fun c => c.name = some configured).isSome :=
        List.find?_isSome.mpr ⟨entry,member,by simpa using name_of_full same full⟩
      obtain ⟨first,found⟩ := Option.isSome_iff_exists.mp hit
      rw [ccuEntry,found]
      exact ⟨List.mem_of_find?_eq_some found,configured,by simpa using List.find?_some found,.inl ⟨⟨known,full⟩,rfl⟩⟩
    · obtain ⟨entry,rfl,same⟩ : ∃ entry, ccus = [entry] ∧ entry.name.getD "" = only := by
        have one := List.perm_singleton.mp lists
        cases ccus with
        | nil => cases one
        | cons entry rest =>
          obtain ⟨same,none⟩ := List.cons.inj one
          exact ⟨entry,by rw [List.map_eq_nil_iff.mp none],same⟩
      have chosen : ccuEntry configured [entry] = some entry := by
        unfold ccuEntry
        cases found : List.find? (fun c => decide (c.name = some configured)) [entry] with
        | none => rfl
        | some other => exact congrArg some (List.mem_singleton.mp (List.mem_of_find?_eq_some found))
      have single : namedCentrals [only] = {only} := by
        ext name
        simp only [namedCentrals,List.mem_singleton,Set.mem_ofPred_eq,Set.mem_singleton_iff]
        exact ⟨fun both => both.1,fun same => ⟨same,same ▸ full⟩⟩
      rw [chosen]
      refine ⟨List.mem_singleton.mpr rfl,only,name_of_full same full,?_⟩
      rw [single]
      by_cases own : configured = only
      · exact .inl ⟨own,own.symm⟩
      · exact .inr ⟨own,rfl⟩

namespace CentralSession
variable {upstream : Upstream} {text : StrMethods} {setup : CentralSetup} {reported : List String}

structure Standing (upstream : Upstream) (setup : CentralSetup) (reported : List String) (x : CentralSession V) : Prop where
  holding : Holding upstream x.session
  name : x.store.centralName = setup.name
  designated : x.store.centralId ≠ "" → Designates setup.name (namedCentrals reported) x.store.centralId
  refreshes : ∀ refresh ∈ x.refreshes, ReadOf reported refresh.ccus

theorem initial_standing (maxDevices : Nat) (serialSuffix : String) :
    Standing upstream setup reported (initial setup maxDevices serialSuffix : CentralSession V) where
  holding := initial_holding maxDevices setup.name serialSuffix
  name := rfl
  designated := fun set => absurd rfl set
  refreshes := fun _ member => absurd member List.not_mem_nil

theorem pinned_is_designated {x : CentralSession V} (standing : x.Standing upstream setup reported) (central : String) :
    PinnedCentral x.store (namedCentrals reported) central ↔ Designates setup.name (namedCentrals reported) central := by
  unfold PinnedCentral
  rw [standing.name]
  by_cases blank : x.store.centralId = ""
  · simp [blank]
  · constructor
    · intro pinned
      rcases pinned with ⟨_,rfl⟩ | ⟨none,_⟩
      · exact standing.designated blank
      · exact absurd none blank
    · intro designated
      exact .inl ⟨blank,designates_unique designated (standing.designated blank)⟩

theorem entry_pinned {x : CentralSession V} (standing : x.Standing upstream setup reported) (matched : Matched setup.name reported)
    (listed : ReadOf reported ccus) :
    EntryOf (PinnedCentral x.store (namedCentrals reported)) ccus (ccuEntry setup.name ccus) := by
  have same : PinnedCentral x.store (namedCentrals reported) = Designates setup.name (namedCentrals reported) :=
    funext fun central => propext (pinned_is_designated standing central)
  rw [same]
  exact entry_designated matched listed

theorem step_standing {x y : CentralSession V} (standing : x.Standing upstream setup reported) (report : Reports reported a)
    (next : step upstream text setup x a = some y) : y.Standing upstream setup reported := by
  cases a with
  | session action =>
    obtain ⟨⟨made,after⟩,moved,rfl⟩ := Option.map_eq_some_iff.mp next
    obtain ⟨chosen,name,_,holding⟩ := session_central standing.holding report moved
    refine ⟨holding,name.trans standing.name,fun set => ?_,standing.refreshes⟩
    rcases chosen with same | designated
    · have before : x.store.centralId ≠ "" := fun blank => set (same.trans blank)
      rw [show store _ = after.adapter.store from rfl,same]
      exact standing.designated before
    · rw [← standing.name]
      exact designated
  | readCcus daemonVersion ccus =>
    cases next
    refine ⟨holding_same standing.holding _ rfl,standing.name,standing.designated,fun refresh member => ?_⟩
    rcases List.mem_append.mp member with old | new
    · exact standing.refreshes refresh old
    · rw [List.mem_singleton.mp new]
      cases ccus with
      | none => exact .inl rfl
      | some entries => exact .inr (report entries rfl)
  | readInterfaces i interfaces =>
    simp only [step] at next
    split at next
    · cases next
    · cases next
      exact ⟨standing.holding,standing.name,standing.designated,
        fun refresh member => standing.refreshes refresh (List.mem_of_mem_eraseIdx member)⟩

theorem step_law {x y : CentralSession V} (standing : x.Standing upstream setup reported) (report : Reports reported a)
    (matched : Matched setup.name reported) (next : step upstream text setup x a = some y) :
    CentralLaw text setup reported x a y := by
  cases a with
  | session action =>
    obtain ⟨⟨made,after⟩,moved,rfl⟩ := Option.map_eq_some_iff.mp next
    obtain ⟨chosen,_,suffix,_⟩ := session_central standing.holding report moved
    have designated : after.adapter.store.centralId = x.store.centralId ∨
        Designates setup.name (namedCentrals reported) after.adapter.store.centralId := by
      rw [← standing.name]
      exact chosen
    refine ⟨fun set => ?_,fun changed => ?_,?_,?_,fun _ _ => ⟨suffix,rfl⟩⟩
    · rcases designated with same | new
      · exact same
      · exact designates_unique new (standing.designated set)
    · rcases designated with same | new
      · exact absurd same changed
      · exact new
    · intro _ _ other
      cases other
    · intro _ _ _ other
      cases other
  | readCcus daemonVersion ccus =>
    cases next
    refine ⟨fun _ => rfl,fun changed => absurd rfl changed,?_,?_,?_⟩
    · intro version entries same
      cases same
      refine ⟨ccuEntry setup.name (ccus.getD []),entry_pinned standing matched ?_,rfl⟩
      cases ccus with
      | none => exact .inl rfl
      | some entries => exact .inr (report entries rfl)
    · intro _ _ _ other
      cases other
    · intro _ other
      cases other
  | readInterfaces i interfaces =>
    simp only [step] at next
    split at next
    · cases next
    · rename_i refresh found
      cases next
      refine ⟨fun _ => rfl,fun changed => absurd rfl changed,?_,?_,?_⟩
      · intro _ _ other
        cases other
      · intro j others refresh' same found'
        cases same
        rw [found] at found'
        cases found'
        exact ⟨ccuEntry setup.name refresh.ccus,
          entry_pinned standing matched (standing.refreshes refresh (List.mem_of_getElem? found)),rfl⟩
      · intro _ other
        cases other

theorem run_law (matched : Matched setup.name reported) (actions : List (CentralAction V)) (x : CentralSession V)
    (standing : x.Standing upstream setup reported) (report : ∀ a ∈ actions, Reports reported a) :
    Every (step upstream text setup) (CentralLaw text setup reported) x actions := by
  induction actions generalizing x with
  | nil => trivial
  | cons a rest ih =>
    unfold Every
    cases next : step upstream text setup x a with
    | none => trivial
    | some y =>
      have here := report a List.mem_cons_self
      exact ⟨step_law standing here matched next,
        ih y (step_standing standing here next) fun b member => report b (List.mem_cons_of_mem a member)⟩

def versionEntry (name version : String) : SystemCcuEntry :=
  ⟨some name,none,some version,none,none,none,none,false,none,none⟩

def versionList (first : String) (reported : List String) : List SystemCcuEntry :=
  (first :: reported.erase first).map fun name => versionEntry name (if name = first then "2" else "1")

theorem version_list_reports (member : first ∈ reported) : ((versionList first reported).map (·.name.getD "")).Perm reported := by
  have names : (versionList first reported).map (·.name.getD "") = first :: reported.erase first := by
    simp [versionList,versionEntry,Function.comp_def]
  rw [names]
  exact (List.perm_cons_erase member).symm

theorem version_list_first (member : first ∈ reported) (only : configured ∈ reported → configured = first) :
    ccuEntry configured (versionList first reported) = some (versionEntry first "2") := by
  by_cases same : configured = first
  · simp [ccuEntry,versionList,versionEntry,same]
  · have unnamed : configured ∉ reported := fun known => same (only known)
    have nobody : (versionList first reported).find? (fun c => c.name = some configured) = none := by
      rw [List.find?_eq_none]
      intro entry here
      obtain ⟨name,listed,rfl⟩ := List.mem_map.mp here
      have known : name ∈ reported := (List.perm_cons_erase member).symm.mem_iff.mp listed
      simp only [versionEntry,Option.some.injEq,decide_eq_true_eq]
      exact fun equal => unnamed (equal ▸ known)
    rw [ccuEntry,nobody]
    simp [versionList]

-- The daemon can list first a central that is not the client's.
theorem unmatched_stranger (unmatched : ¬ Matched configured reported) (once : reported.Nodup) :
    ∃ first ∈ reported, (configured ∈ reported → configured = first) ∧
      ¬ Designates configured (namedCentrals reported) first := by
  by_cases known : configured ∈ reported
  · refine ⟨configured,known,fun _ => rfl,fun designated => ?_⟩
    exact unmatched (.inr (.inl ⟨(designates_reported designated).2,known⟩))
  · by_contra every
    have all : ∀ first ∈ reported, Designates configured (namedCentrals reported) first := by
      intro first member
      by_contra other
      exact every ⟨first,member,fun here => absurd here known,other⟩
    cases reported with
    | nil => exact unmatched (.inl rfl)
    | cons first rest =>
      have designated := all first List.mem_cons_self
      cases rest with
      | nil => exact unmatched (.inr (.inr ⟨first,(designates_reported designated).2,rfl⟩))
      | cons second rest =>
        have same := designates_unique designated (all second (by simp))
        exact (List.nodup_cons.mp once).1 (same ▸ List.mem_cons_self)

theorem unmatched_adopts (unmatched : ¬ Matched setup.name reported) (once : reported.Nodup) (maxDevices : Nat) (suffix : String) :
    ∃ actions : List (CentralAction V), (∀ a ∈ actions, Reports reported a) ∧
      ¬ Every (step upstream text setup) (CentralLaw text setup reported) (initial setup maxDevices suffix) actions := by
  obtain ⟨first,member,only,stranger⟩ := unmatched_stranger unmatched once
  refine ⟨[.readCcus "3" (some (versionList first reported)),.readInterfaces 0 none],?_,?_⟩
  · intro a here
    rcases List.mem_cons.mp here with rfl | later
    · intro entries same
      cases same
      exact version_list_reports member
    · rw [List.mem_singleton.mp later]
      trivial
  · intro ⟨_,law,_⟩
    obtain ⟨entry,own,adopted⟩ := law.information 0 none ⟨"3",versionList first reported⟩ rfl rfl
    have shown := congrArg LoomSystemInformation.version adopted
    change (systemInformationOf text setup.serial "3" (ccuEntry setup.name (versionList first reported)) []).version = _ at shown
    rw [version_list_first member only] at shown
    have second : "2" = (systemInformationOf text setup.serial "3" entry []).version := shown
    cases entry with
    | none => exact absurd (second.trans (show _ = "3" from rfl)) (by decide)
    | some entry =>
      obtain ⟨here,central,name,pinned⟩ := own
      obtain ⟨listed,_,rfl⟩ := List.mem_map.mp here
      have same : listed = central := Option.some.inj name
      subst same
      have designated : Designates setup.name (namedCentrals reported) listed := by
        rcases pinned with ⟨set,_⟩ | ⟨_,designated⟩
        · exact absurd rfl set
        · exact designated
      have other : listed ≠ first := fun same => stranger (same ▸ designated)
      rw [if_neg other] at second
      exact absurd (second.trans (show _ = "1" from rfl)) (by decide)

def PinnedForGood (x : CentralSession V) (a : CentralAction V) (y : CentralSession V) : Prop :=
  x.store.centralId ≠ "" → (∀ action, a = .session action → (turn x.session action).1 = false) →
    y.store.centralId = x.store.centralId

def UnforcedStep (a : CentralAction V) : Prop := ∀ action, a = .session action → Unforced action

theorem run_pinned (actions : List (CentralAction V)) (x : CentralSession V) (holding : Holding upstream x.session)
    (unforced : ∀ a ∈ actions, UnforcedStep a) : Every (step upstream text setup) PinnedForGood x actions := by
  induction actions generalizing x with
  | nil => trivial
  | cons a rest ih =>
    unfold Every
    cases next : step upstream text setup x a with
    | none => trivial
    | some y =>
      have later : ∀ b ∈ rest, UnforcedStep b := fun b member => unforced b (List.mem_cons_of_mem a member)
      cases a with
      | session action =>
        obtain ⟨⟨made,after⟩,moved,rfl⟩ := Option.map_eq_some_iff.mp next
        obtain ⟨turned,waiting⟩ := advance_central holding (unforced _ List.mem_cons_self action rfl) moved
        exact ⟨fun set early => turned.pinned (early action rfl) set,ih _ waiting later⟩
      | readCcus daemonVersion ccus =>
        cases next
        exact ⟨fun _ _ => rfl,ih _ (holding_same holding _ rfl) later⟩
      | readInterfaces i interfaces =>
        simp only [step] at next
        split at next
        · cases next
        · cases next
          exact ⟨fun _ _ => rfl,ih _ holding later⟩

theorem central_agreed_iff_matched (upstream : Upstream) (text : StrMethods) (setup : CentralSetup) (maxDevices : Nat)
    (suffix : String) (reported : List String) (once : reported.Nodup) :
    (∀ (a : Adapter V) (answers : Answers V) (entries : List (Option String)) (snapshot : Snapshot V),
      a.store.centralId = "" → answers .systemCcus = some entries → (ccuNames entries).Nodup →
      named (ccuNames entries) = named (interfaceNames snapshot) →
      ((pinCentralId .done).complete (applyEffect upstream) answers a).store.centralId =
        (inferCentralId a.store snapshot).getD "") ∧
    (∀ actions : List (CentralAction V), (∀ a ∈ actions, UnforcedStep a) →
      Every (step upstream text setup) PinnedForGood (initial setup maxDevices suffix) actions) ∧
    ((∀ actions : List (CentralAction V), (∀ a ∈ actions, Reports reported a) →
      Every (step upstream text setup) (CentralLaw text setup reported) (initial setup maxDevices suffix) actions) ↔
        Matched setup.name reported) := by
  refine ⟨fun a answers entries snapshot blank answered distinct same => ?_,fun actions unforced => ?_,?_,?_⟩
  · exact pinned_as_inferred upstream a answers entries snapshot blank answered distinct same
  · exact run_pinned actions _ (initial_holding maxDevices setup.name suffix) unforced
  · intro law
    by_contra unmatched
    obtain ⟨actions,report,broken⟩ := unmatched_adopts (V := V) unmatched once maxDevices suffix
    exact broken (law actions report)
  · intro matched actions report
    exact run_law matched actions _ (initial_standing maxDevices suffix) report

def asciiMethods : StrMethods := ⟨fun s => String.ofList (s.toList.map Char.toLower),id⟩

def ccuOf (name serial : String) : SystemCcuEntry :=
  ⟨some name,some serial,some "3.79.6",none,some "ccu",some "OpenCCU",none,false,none,none⟩

-- The bootstrap pins "Home", reads its devices, and the refresh takes its serial.
def homeAnswers : Answers Nat
  | .systemCcus => some [some "Attic",some "Home"]
  | .snapshot _ (some _) => some ⟨[bareSummary "A"],none,none,none,none⟩
  | _ => none

def homeRun : List (CentralAction Nat) :=
  [.session (.begin .start),.session (.resume 0 homeAnswers),
    .readCcus "13.3.0" (some [ccuOf "Attic" "ATTIC00001",ccuOf "Home" "HOME000001"]),
    .session (.resume 0 homeAnswers),.readInterfaces 0 none]

theorem home_answers_report : AnswersReport ["Attic","Home"] homeAnswers := by
  constructor
  · intro entries same
    cases same
    exact .refl _
  · intro fetch snapshot same
    cases same

theorem home_adopts_its_own :
    Every (step bareUpstream asciiMethods ⟨"Home",none⟩) (CentralLaw asciiMethods ⟨"Home",none⟩ ["Attic","Home"])
      (initial ⟨"Home",none⟩ 8 "") homeRun ∧
    ((run (step bareUpstream asciiMethods ⟨"Home",none⟩) (initial ⟨"Home",none⟩ 8 "") homeRun).map fun y =>
      (y.store.centralId,y.store.serialSuffix,y.store.devices.keys)) = some ("Home","home000001",["A"]) := by
  refine ⟨?_,by decide +kernel⟩
  refine (central_agreed_iff_matched bareUpstream asciiMethods ⟨"Home",none⟩ 8 "" ["Attic","Home"] (by decide)).2.2.mpr
    (.inr (.inl ⟨by decide,by decide⟩)) homeRun fun a member => ?_
  simp only [homeRun,List.mem_cons,List.not_mem_nil,or_false] at member
  rcases member with rfl | rfl | rfl | rfl | rfl
  · trivial
  · exact home_answers_report
  · intro entries same
    cases same
    exact .refl _
  · exact home_answers_report
  · trivial

theorem stranger_serial_adopted :
    Reports ["Attic","Cellar"] (.readCcus "13.3.0" (some [ccuOf "Attic" "ATTIC00001",ccuOf "Cellar" "CELLAR0001"]) :
      CentralAction Unit) ∧
    ¬ Every (step bareUpstream asciiMethods ⟨"Home",none⟩) (CentralLaw asciiMethods ⟨"Home",none⟩ ["Attic","Cellar"])
      (initial ⟨"Home",none⟩ 8 "" : CentralSession Unit)
      [.readCcus "13.3.0" (some [ccuOf "Attic" "ATTIC00001",ccuOf "Cellar" "CELLAR0001"])] := by
  refine ⟨fun entries same => by cases same; exact .refl _,fun law => ?_⟩
  obtain ⟨entry,own,suffix⟩ := law.1.serial _ _ rfl
  have adopted : "attic00001" = recordedSuffix asciiMethods (adoptedSerial none entry) := suffix
  cases entry with
  | none => exact absurd adopted (by decide)
  | some entry =>
    rcases own with ⟨_,central,_,⟨set,_⟩ | ⟨_,⟨known,_⟩ | ⟨_,only⟩⟩⟩
    · exact set rfl
    · exact absurd known.1 (by decide)
    · have attic : "Attic" = central := (Set.ext_iff.mp only "Attic").mp ⟨by decide,by decide⟩
      have cellar : "Cellar" = central := (Set.ext_iff.mp only "Cellar").mp ⟨by decide,by decide⟩
      exact absurd (attic.trans cellar.symm) (by decide)

end CentralSession

end LoomClient.Compat
