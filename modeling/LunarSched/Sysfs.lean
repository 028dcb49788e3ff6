import LunarSched.DecimalText
import LunarSched.FreqClamp
import LunarSched.SoftLimits
import LunarSched.TargetTunable

/-!
The files of the tunables in sysfs as text: how `kstrtouint` and `kstrtoint` read what is
written, and what the show functions print. A file always shows the number that was
accepted last (`shows_last_stored`), but not every text that is shown can be written back:
`max` is no number, and a target load from 2^31 on is printed with a sign
(`limits_restored_iff`).
-/
namespace LunarSched.Sysfs
open LunarSched.Machine LunarSched.Governor LunarSched.GovernorInit LunarSched.SoftLimits LunarSched.Runs
open LunarSched.DecimalText
open LunarSched.TargetTunable (targetLoadsStore)
open LunarSched.GovernorCache (clampingCore)

/-- A number as `sprintf` prints it with `"%d\n"`. -/
def numberLine (v : ℤ) : List Char := printInt v ++ ['\n']

/-- The target loads are unsigned, but printed with `%d`. -/
def targetLoadsShow (t : LseGovTunables) : List Char := numberLine (s32 t.targetLoads)

def softFreqMaxShow (t : LseGovTunables) : List Char :=
  if t.softFreqMax < 0 then ['m','a','x','\n'] else numberLine t.softFreqMax

def softFreqMinShow (t : LseGovTunables) : List Char :=
  if t.softFreqMin < 0 then ['0','\n'] else numberLine t.softFreqMin

def softFreqCurShow (_ : LseGovTunables) : List Char := ['n','o','n','e','\n']

def applyFreqImmediatelyShow (t : LseGovTunables) : List Char := numberLine (if t.applyFreqImmediately then 1 else 0)

/-- `lse_gov_attrs`. -/
inductive GovAttr where
  | targetLoads
  | softFreq (f : SoftFreq)
  | applyFreqImmediately
deriving DecidableEq

def attrShow : GovAttr → LseGovTunables → List Char
  | .targetLoads => targetLoadsShow
  | .softFreq .max => softFreqMaxShow
  | .softFreq .min => softFreqMinShow
  | .softFreq .cur => softFreqCurShow
  | .applyFreqImmediately => applyFreqImmediatelyShow

def kstrtouint (buf : List Char) : Option ℕ := parseUnsigned 4294967296 buf
def kstrtoint (buf : List Char) : Option ℤ := parseSigned 2147483648 buf

/-- A write of the text `buf` to a file of the tunables `tun`. -/
def attrStore (core : Core) (y : GovSysctl) (s : Gov) (tun : ℕ) (buf : List Char) : GovAttr → ℤ × Gov
  | .targetLoads =>
    let (ret,tunables) := targetLoadsStore (s.tunables tun).tunables (kstrtouint buf) buf.length
    (ret,s.setTunables tun (fun o => { o with tunables := tunables }))
  | .softFreq f => f.store core y s tun (kstrtoint buf) buf.length
  | .applyFreqImmediately => applyFreqImmediatelyStore s tun (kstrtoint buf) buf.length

/-- The number that a file makes of a text. -/
def number (buf : List Char) : GovAttr → Option ℤ
  | .targetLoads => (kstrtouint buf).map (fun n : ℕ => (n : ℤ))
  | .softFreq _ | .applyFreqImmediately => kstrtoint buf

/-- What the number is to the tunables. -/
def putNumber (t : LseGovTunables) (v : ℤ) : GovAttr → LseGovTunables
  | .targetLoads => { t with targetLoads := v.toNat }
  | .softFreq f => f.set t v
  | .applyFreqImmediately => { t with applyFreqImmediately := decide (0 < v) }

/-- The tunables after a text is written. -/
def written (t : LseGovTunables) (attr : GovAttr) (buf : List Char) : LseGovTunables :=
  ((number buf attr).map (fun v => putNumber t v attr)).getD t

section
variable {core : Core} {y : GovSysctl} {s : Gov} {tun other : ℕ}

theorem setTunables_limits (f : LseGovTunables → LseGovTunables) :
    ((s.setTunables tun (fun o => { o with tunables := f o.tunables })).tunables other).tunables =
      if other = tun then f (s.tunables tun).tunables else (s.tunables other).tunables := by
  by_cases own : other = tun
  · simp [Gov.setTunables,own]
  · simp [Gov.setTunables,own]

theorem softFreqStore_limits (f : SoftFreq) (value count : ℤ) :
    ((softFreqStore f core y s tun (some value) count).2.tunables other).tunables =
      if other = tun then f.set (s.tunables tun).tunables value else (s.tunables other).tunables := by
  by_cases same : f.unchanged (s.tunables tun).tunables value = true
  · simp only [softFreqStore,same,if_true,set_unchanged same]
    split_ifs with own
    · rw [own]
    · rfl
  · have stored := @setTunables_limits s tun other (fun t => f.set t value)
    simp only [softFreqStore]
    rw [if_neg same]
    cases applies : ((s.setTunables tun (fun o => { o with tunables := f.set o.tunables value })).tunables
        tun).tunables.applyFreqImmediately with
    | false => exact stored
    | true =>
      rw [if_pos rfl]
      cases ((s.setTunables tun (fun o => { o with tunables := f.set o.tunables value })).tunables tun).policyList.head? with
      | none => exact stored
      | some lg =>
        simp only [Option.map_some,Option.getD_some]
        rw [updateSoftLimit_tunables]
        exact stored

theorem same_limits : (s.tunables other).tunables = if other = tun then (s.tunables tun).tunables else (s.tunables other).tunables := by
  split_ifs with own
  · rw [own]
  · rfl

/-- A write changes the tunables of the file only, and these by the number that is read. -/
theorem attrStore_limits (attr : GovAttr) (buf : List Char) :
    ((attrStore core y s tun buf attr).2.tunables other).tunables =
      if other = tun then written (s.tunables tun).tunables attr buf else (s.tunables other).tunables := by
  cases attr with
  | targetLoads =>
    cases parsed : kstrtouint buf with
    | none => simpa [attrStore,written,number,parsed,targetLoadsStore] using setTunables_limits (fun _ => (s.tunables tun).tunables)
    | some n =>
      simpa [attrStore,written,number,parsed,targetLoadsStore,putNumber] using
        setTunables_limits (s := s) (fun _ => { (s.tunables tun).tunables with targetLoads := n })
  | softFreq f =>
    rw [attrStore,f.store_eq]
    cases parsed : kstrtoint buf with
    | none => simpa [written,number,parsed,softFreqStore] using same_limits
    | some v => simpa [written,number,parsed,putNumber] using softFreqStore_limits f v buf.length
  | applyFreqImmediately =>
    cases parsed : kstrtoint buf with
    | none => simpa [attrStore,written,number,parsed,applyFreqImmediatelyStore] using same_limits
    | some v =>
      simpa [attrStore,written,number,parsed,applyFreqImmediatelyStore,putNumber] using
        setTunables_limits (s := s) (fun t => { t with applyFreqImmediately := decide (0 < v) })

end

/-- Texts are written to the files of any tunables, while the governor goes on with its
    policies, which join and leave the lists of the tunables. -/
inductive SysfsEvent where
  | store (attr : GovAttr) (y : GovSysctl) (tun : ℕ) (buf : List Char)
  | run (p lg : ℕ) (policy : CpufreqPolicy) (record : LseGovPolicy)
  | hooks (tun : ℕ) (usageCount : ℤ) (policyList : List ℕ)

def sysfsStep (core : Core) (s : Gov) : SysfsEvent → Gov
  | .store attr y tun buf => (attrStore core y s tun buf attr).2
  | .run p lg policy record => (s.setPolicy p (fun _ => policy)).setLgPolicy lg (fun l => { l with record := record })
  | .hooks tun usageCount policyList =>
    s.setTunables tun (fun o => { o with usageCount := usageCount, policyList := policyList })

/-- The texts that are written to the files of `tun`. -/
def writes (tun : ℕ) : SysfsEvent → Option (GovAttr × List Char)
  | .store attr _ other buf => if other = tun then some (attr,buf) else none
  | _ => none

def writeText (t : LseGovTunables) (w : GovAttr × List Char) : LseGovTunables := written t w.1 w.2

theorem sysfsStep_limits (core : Core) (s : Gov) (tun : ℕ) (e : SysfsEvent) :
    ((sysfsStep core s e).tunables tun).tunables = ((writes tun e).map (writeText (s.tunables tun).tunables)).getD
      (s.tunables tun).tunables := by
  cases e with
  | store attr y other buf =>
    simp only [sysfsStep,attrStore_limits,writes]
    by_cases own : tun = other
    · subst own
      simp [writeText]
    · simp [own,Ne.symm own]
  | run p lg policy record => rfl
  | hooks other usageCount policyList =>
    simp only [sysfsStep,writes,Gov.setTunables]
    by_cases own : tun = other
    · subst own
      simp
    · simp [own]

/-- The tunables are what the writes to their files make of them, one after the other. -/
theorem limits_of_writes (core : Core) (tun : ℕ) (events : List SysfsEvent) (s : Gov) :
    ((exec (sysfsStep core) s events).tunables tun).tunables =
      exec writeText (s.tunables tun).tunables (events.filterMap (writes tun)) := by
  induction events generalizing s with
  | nil => rfl
  | cons e rest ih =>
    rw [exec_cons,ih,sysfsStep_limits]
    cases text : writes tun e with
    | none => rw [List.filterMap_cons_none text]; rfl
    | some w => rw [List.filterMap_cons_some text]; rfl

/-! ### What a file shows -/

/-- The number that a write to a file leaves in what `attr` shows; `soft_freq_cur` stores
    its number as both soft limits. -/
def stores (attr : GovAttr) (w : GovAttr × List Char) : Option ℤ :=
  if w.1 = attr ∨ (w.1 = .softFreq .cur ∧ (attr = .softFreq .max ∨ attr = .softFreq .min)) then number w.2 w.1 else none

/-- The text of a number. -/
def rendered (v : ℤ) : GovAttr → List Char
  | .targetLoads => numberLine (if v < 2147483648 then v else v - 4294967296)
  | .softFreq .max => if v < 0 then ['m','a','x','\n'] else numberLine v
  | .softFreq .min => if v < 0 then ['0','\n'] else numberLine v
  | .softFreq .cur => ['n','o','n','e','\n']
  | .applyFreqImmediately => numberLine (if 0 < v then 1 else 0)

/-- The numbers that `lse_gov_init` starts with. -/
def initialNumber : GovAttr → ℤ
  | .targetLoads => 90
  | .softFreq _ => -1
  | .applyFreqImmediately => 1

/-- The tunables have the number where `attr` looks for it. -/
def Holds (t : LseGovTunables) (v : ℤ) : GovAttr → Prop
  | .targetLoads => (t.targetLoads : ℤ) = v ∧ v < 4294967296
  | .softFreq .max => t.softFreqMax = v
  | .softFreq .min => t.softFreqMin = v
  | .softFreq .cur => True
  | .applyFreqImmediately => t.applyFreqImmediately = decide (0 < v)

section
variable {t : LseGovTunables} {v : ℤ}

theorem kstrtouint_lt {buf : List Char} {n : ℕ} (read : kstrtouint buf = some n) : n < 4294967296 :=
  (parseUnsigned_iff.mp read).2

theorem kstrtoint_range {buf : List Char} (read : kstrtoint buf = some v) : -2147483648 ≤ v ∧ v < 2147483648 :=
  ((parseSigned_iff (by omega)).mp read).2

theorem shows_of_holds {attr : GovAttr} (holds : Holds t v attr) : attrShow attr t = rendered v attr := by
  cases attr with
  | targetLoads =>
    obtain ⟨same,small⟩ := holds
    have word : u32 t.targetLoads = t.targetLoads := by
      unfold u32
      omega
    simp only [attrShow,targetLoadsShow,rendered,s32,word]
    congr 1
    split_ifs <;> omega
  | softFreq f =>
    cases f with
    | max => exact (congrArg (fun m : ℤ => if m < 0 then ['m','a','x','\n'] else numberLine m) holds)
    | min => exact (congrArg (fun m : ℤ => if m < 0 then ['0','\n'] else numberLine m) holds)
    | cur => rfl
  | applyFreqImmediately =>
    simp only [attrShow,applyFreqImmediatelyShow,rendered]
    rw [show t.applyFreqImmediately = decide (0 < v) from holds]
    simp

theorem holds_write {attr : GovAttr} (holds : Holds t v attr) (w : GovAttr × List Char) :
    Holds (writeText t w) ((stores attr w).getD v) attr := by
  obtain ⟨file,buf⟩ := w
  cases read : number buf file with
  | none =>
    have same : writeText t (file,buf) = t := by simp [writeText,written,read]
    have nothing : stores attr (file,buf) = none := by simp [stores,read]
    rw [same,nothing]
    exact holds
  | some n =>
    have put : writeText t (file,buf) = putNumber t n file := by simp [writeText,written,read]
    rw [put]
    cases file with
    | targetLoads =>
      obtain ⟨m,parsed,rfl⟩ := Option.map_eq_some_iff.mp read
      have small := kstrtouint_lt parsed
      cases attr with
      | targetLoads => simpa [stores,number,parsed,Holds,putNumber] using small
      | softFreq f =>
        cases f with
        | max => simpa [stores,Holds,putNumber] using holds
        | min => simpa [stores,Holds,putNumber] using holds
        | cur => trivial
      | applyFreqImmediately => simpa [stores,Holds,putNumber] using holds
    | softFreq g =>
      cases attr with
      | targetLoads => cases g <;> simpa [stores,Holds,putNumber,SoftFreq.set] using holds
      | softFreq f =>
        cases f with
        | max => cases g <;> simp_all [stores,Holds,putNumber,SoftFreq.set]
        | min => cases g <;> simp_all [stores,Holds,putNumber,SoftFreq.set]
        | cur => trivial
      | applyFreqImmediately => cases g <;> simpa [stores,Holds,putNumber,SoftFreq.set] using holds
    | applyFreqImmediately =>
      cases attr with
      | targetLoads => simpa [stores,Holds,putNumber] using holds
      | softFreq f =>
        cases f with
        | max => simpa [stores,Holds,putNumber] using holds
        | min => simpa [stores,Holds,putNumber] using holds
        | cur => trivial
      | applyFreqImmediately => simp [stores,read,Holds,putNumber]

theorem holds_writes {attr : GovAttr} (texts : List (GovAttr × List Char)) (holds : Holds t v attr) :
    Holds (exec writeText t texts) ((texts.filterMap (stores attr)).getLastD v) attr := by
  induction texts generalizing t v with
  | nil => exact holds
  | cons w rest ih =>
    have next := ih (holds_write holds w)
    rw [exec_cons]
    cases stored : stores attr w with
    | none =>
      rw [List.filterMap_cons_none stored]
      rwa [stored] at next
    | some n =>
      rw [List.filterMap_cons_some stored,List.getLastD_cons]
      rwa [stored] at next

/-- The tunables have the values of `lse_gov_init`. -/
def initialised (s : Gov) (tun : ℕ) : Gov := s.setTunables tun (fun o => { o with tunables := defaultTunables })

theorem initialised_limits (s : Gov) (tun : ℕ) : ((initialised s tun).tunables tun).tunables = defaultTunables := by
  simp [initialised,Gov.setTunables]

def tunablesAfter (core : Core) (s : Gov) (tun : ℕ) (events : List SysfsEvent) : LseGovTunables :=
  ((exec (sysfsStep core) s events).tunables tun).tunables

/-- In every run of writes to sysfs from the tunables of `lse_gov_init`, each file shows the
    text of the number that it was given last, whatever was rejected in between and however
    the number was written. -/
theorem shows_last_stored (core : Core) (s : Gov) (tun : ℕ) (events : List SysfsEvent) (attr : GovAttr) :
    attrShow attr (tunablesAfter core (initialised s tun) tun events) =
      rendered (((events.filterMap (writes tun)).filterMap (stores attr)).getLastD (initialNumber attr)) attr := by
  refine shows_of_holds ?_
  rw [tunablesAfter,limits_of_writes,initialised_limits]
  refine holds_writes _ ?_
  cases attr with
  | targetLoads => simp [Holds,initialNumber,defaultTunables,defaultTargetLoad]
  | softFreq f => cases f <;> simp [Holds,initialNumber,defaultTunables]
  | applyFreqImmediately => simp [Holds,initialNumber,defaultTunables]

end

/-- All files are read. -/
def saved (t : LseGovTunables) : List (GovAttr × List Char) :=
  [.applyFreqImmediately,.softFreq .cur,.softFreq .max,.softFreq .min,.targetLoads].map (fun attr => (attr,attrShow attr t))

/-- The tunables fit their types. -/
structure Fits (t : LseGovTunables) : Prop where
  targetLoads : t.targetLoads < 4294967296
  softFreqMax : -2147483648 ≤ t.softFreqMax ∧ t.softFreqMax < 2147483648
  softFreqMin : -2147483648 ≤ t.softFreqMin ∧ t.softFreqMin < 2147483648

section
variable {t u : LseGovTunables}

theorem fits_write (fits : Fits t) (w : GovAttr × List Char) : Fits (writeText t w) := by
  obtain ⟨file,buf⟩ := w
  simp only [writeText,written]
  cases read : number buf file with
  | none => exact fits
  | some n =>
    cases file with
    | targetLoads =>
      obtain ⟨m,parsed,rfl⟩ := Option.map_eq_some_iff.mp read
      exact { fits with targetLoads := by simpa [putNumber] using kstrtouint_lt parsed }
    | softFreq f =>
      have range := kstrtoint_range read
      cases f with
      | max => exact { fits with softFreqMax := range }
      | min => exact { fits with softFreqMin := range }
      | cur => exact ⟨fits.targetLoads,range,range⟩
    | applyFreqImmediately => exact ⟨fits.targetLoads,fits.softFreqMax,fits.softFreqMin⟩

theorem kstrtoint_line {v : ℤ} (low : -2147483648 ≤ v) (high : v < 2147483648) : kstrtoint (numberLine v) = some v :=
  parseSigned_print low high (by simp)

/-- A saved target load is accepted again unless it was printed with a sign. -/
theorem kstrtouint_targetLoads (fits : Fits t) :
    kstrtouint (targetLoadsShow t) = if t.targetLoads < 2147483648 then some t.targetLoads else none := by
  have word : u32 t.targetLoads = t.targetLoads := Nat.mod_eq_of_lt fits.targetLoads
  have range := fits.targetLoads
  rw [kstrtouint,targetLoadsShow,numberLine,parseUnsigned_print (by simp only [s32,word]; split_ifs <;> omega) (by simp)]
  simp only [s32,word]
  split_ifs <;> first | omega | simp

theorem write_saved_apply (t u : LseGovTunables) :
    written u .applyFreqImmediately (applyFreqImmediatelyShow t) =
      { u with applyFreqImmediately := t.applyFreqImmediately } := by
  cases on : t.applyFreqImmediately with
  | true => simp [written,number,applyFreqImmediatelyShow,on,kstrtoint_line,putNumber]
  | false => simp [written,number,applyFreqImmediatelyShow,on,kstrtoint_line,putNumber]

/-- The word `none` is no number, so nothing comes of writing it back. -/
theorem write_saved_cur (t u : LseGovTunables) : written u (.softFreq .cur) (softFreqCurShow t) = u := by
  have rejected : kstrtoint ['n','o','n','e','\n'] = none := by decide
  simp [written,number,softFreqCurShow,rejected]

/-- The word `max` is no number either. -/
theorem write_saved_max (fits : Fits t) (u : LseGovTunables) : written u (.softFreq .max) (softFreqMaxShow t) =
    { u with softFreqMax := if t.softFreqMax < 0 then u.softFreqMax else t.softFreqMax } := by
  unfold softFreqMaxShow
  split_ifs with none
  · have rejected : kstrtoint ['m','a','x','\n'] = .none := by decide
    simp [written,number,rejected]
  · simp [written,number,kstrtoint_line fits.softFreqMax.1 fits.softFreqMax.2,putNumber,SoftFreq.set]

theorem write_saved_min (fits : Fits t) (u : LseGovTunables) : written u (.softFreq .min) (softFreqMinShow t) =
    { u with softFreqMin := if t.softFreqMin < 0 then 0 else t.softFreqMin } := by
  unfold softFreqMinShow
  split_ifs with none
  · have zero : kstrtoint ['0','\n'] = some 0 := by decide
    simp [written,number,zero,putNumber,SoftFreq.set]
  · simp [written,number,kstrtoint_line fits.softFreqMin.1 fits.softFreqMin.2,putNumber,SoftFreq.set]

theorem write_saved_targetLoads (fits : Fits t) (u : LseGovTunables) : written u .targetLoads (targetLoadsShow t) =
    { u with targetLoads := if t.targetLoads < 2147483648 then t.targetLoads else u.targetLoads } := by
  simp only [written,number,kstrtouint_targetLoads fits]
  split_ifs with small
  · simp [putNumber]
  · simp

/-- What becomes of the tunables when the texts of `t` are written back. -/
theorem write_saved (fits : Fits t) (u : LseGovTunables) :
    exec writeText u (saved t) =
      { targetLoads := if t.targetLoads < 2147483648 then t.targetLoads else u.targetLoads
        softFreqMax := if t.softFreqMax < 0 then u.softFreqMax else t.softFreqMax
        softFreqMin := if t.softFreqMin < 0 then 0 else t.softFreqMin
        applyFreqImmediately := t.applyFreqImmediately } := by
  simp only [saved,List.map_cons,List.map_nil,exec_cons,exec_nil,writeText,attrShow,write_saved_apply,write_saved_cur,
    write_saved_max fits,write_saved_min fits,write_saved_targetLoads fits]

/-- Two settings of the soft limits under which every target of 32 bits is clamped alike. -/
def ClampAlike (t u : LseGovTunables) : Prop :=
  ∀ y lg target, target < 4294967296 → softFreqClamp y u lg target = softFreqClamp y t lg target

/-- What the soft limits leave of a target, before the caps. -/
def softLimited (t : LseGovTunables) (target : ℕ) : ℕ :=
  if 0 ≤ t.softFreqMax then min t.softFreqMax.toNat (max target t.softFreqMin.toNat) else max target t.softFreqMin.toNat

theorem softFreqClamp_soft (y : GovSysctl) (t : LseGovTunables) (lg : LseGovPolicy) (target : ℕ) :
    softFreqClamp y t lg target = softFreqClamp y ⟨t.targetLoads,-1,-1,true⟩ lg (softLimited t target) := by
  have soft : (if 0 ≤ t.softFreqMax ∧ t.softFreqMax.toNat < max target t.softFreqMin.toNat then t.softFreqMax.toNat
      else max target t.softFreqMin.toNat) = softLimited t target := by
    unfold softLimited
    split_ifs <;> omega
  simp only [softFreqClamp,FreqClamp.softMin_eq,soft]
  simp

/-- The limits clamp alike unless one of the maxima is a number and the other is not. -/
theorem clampAlike_iff (fits : Fits t) (fits_u : Fits u) (max_saved : 0 ≤ t.softFreqMax → u.softFreqMax = t.softFreqMax)
    (min_saved : u.softFreqMin = if t.softFreqMin < 0 then 0 else t.softFreqMin) :
    ClampAlike t u ↔ (t.softFreqMax < 0 → u.softFreqMax < 0) := by
  have same_min : u.softFreqMin.toNat = t.softFreqMin.toNat := by
    rw [min_saved]
    split_ifs <;> omega
  constructor
  · intro alike unlimited
    by_contra limited
    have soft : ∀ target, target < 4294967296 → softLimited u target = softLimited t target := by
      intro target small
      have freq := congrArg Prod.fst
        (alike { govSysctlDefaults with clusterFreqCapEnable := 0 } lseGovPolicyAlloc target small)
      rw [softFreqClamp_soft _ u,softFreqClamp_soft _ t] at freq
      simpa [softFreqClamp] using freq
    have max_u := fits_u.softFreqMax
    have min_t := fits.softFreqMin
    -- A target above the maximum and the minimum.
    have above := soft (u.softFreqMax.toNat + t.softFreqMin.toNat + 1) (by omega)
    rw [softLimited,softLimited,if_pos (by omega),if_neg (by omega),same_min] at above
    omega
  · intro both y lg target _
    have soft : softLimited u target = softLimited t target := by
      unfold softLimited
      rw [same_min]
      by_cases unlimited : t.softFreqMax < 0
      · have := both unlimited
        rw [if_neg (by omega),if_neg (by omega)]
      · rw [max_saved (by omega)]
    rw [softFreqClamp_soft y u,softFreqClamp_soft y t,soft]
    rfl

end

/-- All files are saved after one run, and the texts are written back after another, while
    anything else goes on. The limits clamp as they did exactly when there was a maximum, or
    there is none where the texts are written; the target load is back exactly when it was
    printed without a sign, or never changed. -/
theorem limits_restored_iff (core : Core) (s : Gov) (tun : ℕ) (before between restore : List SysfsEvent)
    (back : restore.filterMap (writes tun) = saved (tunablesAfter core (initialised s tun) tun before)) :
    (ClampAlike (tunablesAfter core (initialised s tun) tun before)
        (tunablesAfter core (initialised s tun) tun (before ++ between ++ restore)) ↔
      ((tunablesAfter core (initialised s tun) tun before).softFreqMax < 0 →
        (tunablesAfter core (initialised s tun) tun (before ++ between)).softFreqMax < 0)) ∧
    ((tunablesAfter core (initialised s tun) tun (before ++ between ++ restore)).targetLoads =
        (tunablesAfter core (initialised s tun) tun before).targetLoads ↔
      (tunablesAfter core (initialised s tun) tun before).targetLoads < 2147483648 ∨
        (tunablesAfter core (initialised s tun) tun (before ++ between)).targetLoads =
          (tunablesAfter core (initialised s tun) tun before).targetLoads) ∧
    (tunablesAfter core (initialised s tun) tun (before ++ between ++ restore)).applyFreqImmediately =
      (tunablesAfter core (initialised s tun) tun before).applyFreqImmediately := by
  have fits : ∀ events, Fits (tunablesAfter core (initialised s tun) tun events) := by
    intro events
    rw [tunablesAfter,limits_of_writes,initialised_limits]
    exact exec_always Fits (fun t w fits => fits_write fits w) ⟨by decide,by decide,by decide⟩ _
  have restored : tunablesAfter core (initialised s tun) tun (before ++ between ++ restore) =
      exec writeText (tunablesAfter core (initialised s tun) tun (before ++ between))
        (saved (tunablesAfter core (initialised s tun) tun before)) := by
    rw [← back,tunablesAfter,exec,List.foldl_append]
    exact limits_of_writes core tun restore _
  have after := fits (before ++ between ++ restore)
  rw [write_saved (fits before)] at restored
  rw [restored] at after ⊢
  refine ⟨?_,?_,rfl⟩
  · rw [clampAlike_iff (fits before) after (fun limited => if_neg (by omega)) rfl]
    refine imp_congr_right (fun unlimited => ?_)
    rw [if_pos unlimited]
  · simp only []
    split_ifs with small
    · exact iff_of_true rfl (Or.inl small)
    · exact (or_iff_right small).symm

/-- A maximum is saved, lowered and written back. -/
theorem limits_restored_lowered :
    let start := initialised (GovernorLifetime.start (fun _ => fullPolicy)).gov 0
    let before := [SysfsEvent.store (.softFreq .max) govSysctlDefaults 0 (numberLine 1200000)]
    let between := [SysfsEvent.store (.softFreq .max) govSysctlDefaults 0 (numberLine 800000)]
    let restore := (saved (tunablesAfter clampingCore start 0 before)).map
      (fun text => SysfsEvent.store text.1 govSysctlDefaults 0 text.2)
    ClampAlike (tunablesAfter clampingCore start 0 before) (tunablesAfter clampingCore start 0 (before ++ between ++ restore)) :=
  (limits_restored_iff clampingCore (GovernorLifetime.start (fun _ => fullPolicy)).gov 0
    [.store (.softFreq .max) govSysctlDefaults 0 (numberLine 1200000)]
    [.store (.softFreq .max) govSysctlDefaults 0 (numberLine 800000)] _ rfl).1.mpr (by decide)

end LunarSched.Sysfs
