import Cantil.Proof.RecordPermanence

/-! The directories of `/certs`: what their listing holds, what a sweep does to their records, and what a command may
touch at all. -/

namespace Cantil
open Library

/-- A stored certificate, and the place of a new directory. -/
structure IssuedWrite where
  place : Nat
  serial : Bytes
  sized : 1 ≤ serial.length ∧ serial.length ≤ 20
  der : Bytes

def IssuedWrite.run (write : IssuedWrite) (device : Device) : Device :=
  (storageIssuedCertWrite (.none write.place) write.serial write.der device).2

/-- The certificate that was stored last under the serial. -/
def lastStored (writes : List IssuedWrite) (serial : Bytes) : Option Bytes :=
  (writes.reverse.find? fun write => write.serial = serial).map IssuedWrite.der

theorem decodeName_hexName {serial : Bytes} (sized : 1 ≤ serial.length ∧ serial.length ≤ 20) :
    decodeName (hexName serial) = some serial := by
  have decoded := hexBytes_hexName serial
  have double := hexBytes_length decoded
  rw [decodeName, if_neg (by omega), decoded]

theorem IssuedWrite.run_eq (write : IssuedWrite) (device : Device) :
    write.run device =
      { device with fs := device.fs.put write.place (.issued (hexName write.serial) .cert) write.der } := by
  have short : write.serial.length * 2 + 1 ≤ pathMaxLen := by
    have sized := write.sized
    simp only [pathMaxLen]
    omega
  simp only [IssuedWrite.run, storageIssuedCertWrite, Op.bind_apply, Op.ensure, short, if_true, Op.pure_apply]
  rfl

/-- A callback that never stops is called for every serial. -/
theorem iterNames_eq_foldlM {Context : Type} (callback : Bytes → Context → Op Device Errno Context)
    (names : List Bytes) (context : Context) (device : Device) :
    iterNames (fun serial context => do return (← callback serial context, false)) names context device =
      (names.filterMap decodeName).foldlM (fun context serial => callback serial context) context device := by
  induction names generalizing context device with
  | nil => rfl
  | cons name rest ih =>
    rcases decoded : decodeName name with _ | serial
    · simp only [iterNames, decoded, List.filterMap_cons_none decoded, ih]
    · simp only [iterNames, decoded, List.filterMap_cons_some decoded, List.foldlM_cons, Op.bind_apply]
      rcases callback serial context device with ⟨error | next, after⟩
      · rfl
      · exact ih next after

/-- The listing and the files after some writes. -/
structure Stores (writes : List IssuedWrite) (device : Device) : Prop where
  listed : ∀ name, name ∈ device.fs.certDirs ↔ ∃ write ∈ writes, hexName write.serial = name
  files : ∀ serial der, lastStored writes serial = some der →
    device.fs.files (.issued (hexName serial) .cert) = some der

theorem stores_run {start : Device} (blank : start.fs.certDirs = []) (writes : List IssuedWrite) :
    Stores writes (writes.foldl (fun device write => write.run device) start) := by
  induction writes using List.reverseRecOn with
  | nil => exact ⟨by simp [blank], by simp [lastStored]⟩
  | append_singleton earlier write ih =>
    rw [List.foldl_concat, write.run_eq]
    constructor
    · intro name
      refine (Fs.mem_mkdirP _ _ _ _ _).trans ?_
      simp [ih.listed, or_comm, eq_comm]
    · intro serial der last
      by_cases here : write.serial = serial
      · subst here
        simpa [lastStored] using last
      · have before : lastStored earlier serial = some der := by
          simpa [lastStored, here] using last
        rw [← ih.files serial der before]
        exact Function.update_of_ne (fun same => here (hexName_injective (Path.issued.inj same).1).symm) _ _

/-- Iteration, count and reads agree with the last stores. -/
structure ReadsBack (writes : List IssuedWrite) (device : Device) (order : List Bytes) : Prop where
  nodup : order.Nodup
  serials : ∀ serial, serial ∈ order ↔ ∃ write ∈ writes, write.serial = serial
  iter : ∀ {Context : Type} (callback : Bytes → Context → Op Device Errno Context) (context : Context),
    storageIssuedCertsIter (fun serial context => do return (← callback serial context, false)) context device =
      order.foldlM (fun context serial => callback serial context) context device
  count : Ca.storageCountIssuedCerts none device = (.ok (UInt32.ofNat order.length), device)
  read : ∀ serial der capacity, lastStored writes serial = some der → der.length ≤ capacity →
    storageIssuedCertRead serial capacity device = (.ok der, device)

/-- Serials have own names, and what is stored is read. -/
theorem issued_store_reads_back {start : Device} (blank : start.fs.certDirs = []) (writes : List IssuedWrite) :
    Function.Injective hexName ∧
      ∃ order, ReadsBack writes (writes.foldl (fun device write => write.run device) start) order := by
  refine ⟨hexName_injective, ?_⟩
  have stores := stores_run blank writes
  generalize writes.foldl (fun device write => write.run device) start = device at stores ⊢
  have decodes (name : Bytes) (held : name ∈ device.fs.certDirs) : (decodeName name).isSome := by
    obtain ⟨write, _, rfl⟩ := (stores.listed name).mp held
    rw [decodeName_hexName write.sized, Option.isSome_some]
  refine ⟨device.fs.certDirs.filterMap decodeName, ?_, ?_, ?_, ?_, ?_⟩
  · apply device.fs.certDirs_nodup.filterMap
    intro first second serial decoded again
    exact (Ca.hexName_of_decodeName decoded).symm.trans (Ca.hexName_of_decodeName again)
  · intro serial
    rw [List.mem_filterMap]
    constructor
    · rintro ⟨name, held, decoded⟩
      obtain ⟨write, inside, rfl⟩ := (stores.listed name).mp held
      exact ⟨write, inside, hexName_injective (Ca.hexName_of_decodeName decoded).symm⟩
    · rintro ⟨write, inside, rfl⟩
      exact ⟨_, (stores.listed _).mpr ⟨write, inside, rfl⟩, decodeName_hexName write.sized⟩
  · intro Context callback context
    exact iterNames_eq_foldlM callback _ context device
  · rw [List.filterMap_length_eq_length.mpr decodes]
    rfl
  · intro serial der capacity last room
    obtain ⟨write, found, _⟩ := Option.map_eq_some_iff.mp last
    obtain rfl : write.serial = serial := by simpa using List.find?_some found
    have sized := write.sized
    have paths : write.serial.length * 2 + 1 ≤ pathMaxLen ∧ write.serial.length * 2 + 20 < pathMaxLen := by
      simp only [pathMaxLen]
      omega
    simp [storageIssuedCertRead, Op.bind_apply, Op.ensure, paths, readFile, stores.files _ _ last,
      List.take_of_length_le room]

/-- A certificate is stored twice and another one once. -/
def sampleWrites : List IssuedWrite :=
  [⟨0, [1], by decide, [7]⟩, ⟨0, [2, 0xAB], by decide, [8]⟩, ⟨0, [1], by decide, [9]⟩]

/-- The last certificate stored for a serial is read. -/
theorem sampleWrites_read_back : Function.Injective hexName ∧ ∃ order, ReadsBack sampleWrites
    (sampleWrites.foldl (fun device write => write.run device) Dispatcher.blankDevice) order :=
  issued_store_reads_back rfl sampleWrites

/-- The records are replaced where there is new content for them. -/
def Fs.rewrite (fs : Fs) (content : Bytes → Option Bytes) : Fs where
  files
    | .issued name .metadata => (fs.files (.issued name .metadata)).map fun old => (content name).getD old
    | path => fs.files path
  certDirs := fs.certDirs
  certDirs_nodup := fs.certDirs_nodup
  listed name file present := fs.listed name file (by cases file <;> simpa using present)

theorem Fs.ext_files {first second : Fs} (files : first.files = second.files)
    (certDirs : first.certDirs = second.certDirs) : first = second := by
  obtain ⟨_, _, _, _⟩ := second
  obtain rfl := files
  obtain rfl := certDirs
  rfl

theorem Fs.rewrite_none (fs : Fs) : fs.rewrite (fun _ => none) = fs := by
  refine Fs.ext_files (funext fun path => ?_) rfl
  rcases path with _ | ⟨name, _ | _⟩ | _ <;> simp [Fs.rewrite]

theorem Fs.rewrite_rewrite (fs : Fs) (first second : Bytes → Option Bytes) :
    (fs.rewrite first).rewrite second = fs.rewrite fun name => (second name).or (first name) := by
  refine Fs.ext_files (funext fun path => ?_) rfl
  rcases path with _ | ⟨name, _ | _⟩ | _
  case issued.metadata => rcases second name with _ | content <;> simp [Fs.rewrite, Function.comp_def]
  all_goals rfl

namespace Ca

/-! The sweep of `AUTO_EXPIRE`. -/

section Sweeps

variable (nowUnix later : UInt64) (names : List Bytes) (device : Device) (name : Bytes)

/-- The record that a sweep at this time has to mark. -/
def dueRecord : Option IssuedMeta := do
  let _ ← decodeName name
  let record ← recordAt device name
  if Due nowUnix record then some record else none

/-- What a sweep over these directories writes. -/
def marking : Option Bytes :=
  if name ∈ names then (dueRecord nowUnix device name).map fun record => record.expired.bytes else none

def swept : Device := { device with fs := device.fs.rewrite (marking nowUnix names device) }

variable {nowUnix later names device name} {env : Env}

@[simp] theorem swept_certDirs : (swept nowUnix names device).fs.certDirs = device.fs.certDirs := rfl

theorem dueRecord_eq_some {record : IssuedMeta} :
    dueRecord nowUnix device name = some record ↔
      (decodeName name).isSome ∧ recordAt device name = some record ∧ Due nowUnix record := by
  unfold dueRecord
  rcases decodeName name with _ | serial
  · simp
  · rcases recordAt device name with _ | found
    · simp
    · simp only [Option.bind_eq_bind, Option.bind_some, Option.ite_none_right_eq_some, Option.some.injEq,
        Option.isSome_some, true_and]
      exact ⟨fun ⟨due, same⟩ => ⟨same, same ▸ due⟩, fun ⟨same, due⟩ => ⟨same ▸ due, same⟩⟩

/-- A flag that was set shows. -/
theorem flag_set (flags : UInt8) {flag : UInt8} (nonzero : flag ≠ 0) : (flags ||| flag) &&& flag ≠ 0 := by
  rw [UInt8.or_comm]
  exact flag_or flags (by rwa [UInt8.and_self])

/-- What is written in the place of a record is read as it is. -/
theorem parse_updated {record updated : IssuedMeta} (held : recordAt device name = some record)
    (same : updated.version = record.version) :
    (parseIssuedMeta (updated.bytes.take (issuedMetaSize + 8))).toOption = some updated := by
  obtain ⟨blob, _, parsed⟩ := Option.bind_eq_some_iff.mp held
  have current := (parseIssuedMeta_ok (toOption_eq_some.mp parsed)).1
  rw [List.take_of_length_le (by rw [updated.bytes_length]; omega), parseIssuedMeta_bytes _ (same.trans current)]
  rfl

/-- A marked record is not due again, and others stay. -/
theorem dueRecord_swept :
    dueRecord later (swept nowUnix names device) name =
      if (marking nowUnix names device name).isSome then none else dueRecord later device name := by
  rcases marks : marking nowUnix names device name with _ | content
  · have same : recordAt (swept nowUnix names device) name = recordAt device name := by
      simp [recordAt, swept, Fs.rewrite, marks]
    simp [dueRecord, same]
  · unfold marking at marks
    split_ifs at marks with listed
    obtain ⟨record, due, rfl⟩ := Option.map_eq_some_iff.mp marks
    obtain ⟨named, held, _⟩ := dueRecord_eq_some.mp due
    obtain ⟨blob, stored, _⟩ := Option.bind_eq_some_iff.mp held
    have reads : (parseIssuedMeta (record.expired.bytes.take _)).toOption = some record.expired :=
      parse_updated held rfl
    have marked : recordAt (swept nowUnix names device) name = some record.expired := by
      simpa [recordAt, swept, Fs.rewrite, stored, marking, listed, due] using reads
    rw [Option.isSome_some, if_pos rfl, Option.eq_none_iff_forall_ne_some]
    intro again found
    obtain ⟨_, same, unmarked⟩ := dueRecord_eq_some.mp found
    obtain rfl := Option.some.inj (marked.symm.trans same)
    exact flag_set record.flags (by decide) unmarked.2.1

theorem swept_idle (idle : ∀ name ∈ names, dueRecord nowUnix device name = none) :
    swept nowUnix names device = device := by
  have nothing : marking nowUnix names device = fun _ => none := by
    funext name
    unfold marking
    split_ifs with listed
    · rw [idle name listed]
      rfl
    · rfl
  rw [swept, nothing, Fs.rewrite_none]

/-- Two sweeps are one that writes what either of them writes. -/
theorem swept_swept {time : UInt64} {visited all : List Bytes}
    (union : ∀ other, (marking later names (swept nowUnix visited device) other).or
      (marking nowUnix visited device other) =
      marking time all device other) :
    swept later names (swept nowUnix visited device) = swept time all device := by
  have contents := funext union
  rw [swept.eq_def time, ← contents]
  exact congrArg (fun fs => { device with fs }) (Fs.rewrite_rewrite _ _ _)

theorem swept_cons (fresh : name ∉ names) :
    swept nowUnix names (swept nowUnix [name] device) = swept nowUnix (name :: names) device := by
  refine swept_swept fun other => ?_
  rw [marking, dueRecord_swept]
  by_cases here : other = name
  · subst here
    simp [marking, fresh]
  · by_cases listed : other ∈ names <;> simp [marking, here, listed]

/-- A visit marks and counts the record if it is due. -/
theorem expireCb_swept {serial : Bytes} (written : ∀ path, env.write path = .done)
    (decoded : decodeName name = some serial) (context : ExpireContext) :
    expireCb env nowUnix serial context device =
      (.ok ({ context with count := context.count + if (dueRecord nowUnix device name).isSome then 1 else 0 }, false),
        swept nowUnix [name] device) := by
  have read := readIssuedMeta_toOption (decodeName_sized decoded).2 device
  rw [hexName_of_decodeName decoded] at read
  rcases outcome : (readIssuedMeta serial device).1 with error | record
  · rw [outcome] at read
    have idle : dueRecord nowUnix device name = none := by simp [dueRecord, ← read, Except.toOption]
    rw [expireCb_unread outcome, swept_idle (by simpa using idle), idle]
    simp
  · rw [outcome] at read
    have held : recordAt device name = some record := read.symm
    have file : hexName serial = name := hexName_of_decodeName decoded
    by_cases due : Due nowUnix record
    · have found : dueRecord nowUnix device name = some record :=
        dueRecord_eq_some.mpr ⟨by rw [decoded]; rfl, held, due⟩
      obtain ⟨blob, stored, _⟩ := Option.bind_eq_some_iff.mp held
      have listed := device.fs.listed name .metadata (by rw [stored]; rfl)
      rw [expireCb_due outcome due, writeFile_done (written _), file, found]
      refine Prod.ext (by simp) (congrArg (fun fs => { device with fs }) (Fs.ext_files (funext fun path => ?_) ?_))
      · by_cases here : path = .issued name .metadata
        · subst here
          simp [Fs.rewrite, stored, marking, found]
        · rw [Fs.put_files, Function.update_of_ne here]
          rcases path with _ | ⟨other, _ | _⟩ | _
          case issued.metadata =>
            have different : other ≠ name := fun same => here (by rw [same])
            simp [Fs.rewrite, marking, different]
          all_goals rfl
      · simp [Fs.put, Fs.mkdirP, listed, Fs.rewrite]
    · have idle : dueRecord nowUnix device name = none := by
        simp [dueRecord, held, due]
      rw [expireCb_idle outcome due, swept_idle (by simpa using idle), idle]
      simp

/-- The number of directories whose record is due. -/
def dueCount (nowUnix : UInt64) (device : Device) (names : List Bytes) : Nat :=
  names.countP fun name => (dueRecord nowUnix device name).isSome

theorem iterNames_swept (written : ∀ path, env.write path = .done) (nodup : names.Nodup) (context : ExpireContext) :
    iterNames (expireCb env nowUnix) names context device =
      (.ok { context with count := context.count + UInt32.ofNat (dueCount nowUnix device names) },
        swept nowUnix names device) := by
  induction names generalizing context device with
  | nil =>
    rw [swept_idle (by simp)]
    simp [iterNames, dueCount, Op.pure_apply]
  | cons name rest ih =>
    obtain ⟨fresh, nodup⟩ := List.nodup_cons.mp nodup
    have others : dueCount nowUnix (swept nowUnix [name] device) rest = dueCount nowUnix device rest := by
      refine List.countP_congr fun other listed => ?_
      have different : other ≠ name := fun same => fresh (same ▸ listed)
      simp [dueRecord_swept, marking, different]
    rcases decoded : decodeName name with _ | serial
    · have idle : dueRecord nowUnix device name = none := by simp [dueRecord, decoded]
      have same : swept nowUnix [name] device = device := swept_idle (by simpa using idle)
      rw [← swept_cons fresh, same]
      simp only [iterNames, decoded, ih nodup context, dueCount, List.countP_cons, idle]
      simp
    · simp only [iterNames, decoded, Op.bind_apply, expireCb_swept written decoded context]
      rw [← swept_cons fresh]
      simp only [Bool.false_eq_true, if_false]
      rw [ih nodup, others]
      by_cases due : (dueRecord nowUnix device name).isSome
      · simp [dueCount, due, UInt32.ofNat_add, UInt32.add_assoc, UInt32.add_comm 1]
      · simp [dueCount, due]

theorem caAutoExpire_swept (written : ∀ path, env.write path = .done) (started : nowUnix ≠ 0) (device : Device) :
    caAutoExpire env nowUnix device =
      (.ok (UInt32.ofNat (dueCount nowUnix device device.fs.certDirs)), swept nowUnix device.fs.certDirs device) := by
  simp [caAutoExpire, storageIssuedCertsIter, Op.bind_apply, Op.ensure, started,
    iterNames_swept written device.fs.certDirs_nodup]

/-- What was due at an earlier time is due now or marked already. -/
theorem dueRecord_later (after : nowUnix ≤ later) {record : IssuedMeta}
    (due : dueRecord nowUnix device name = some record) : dueRecord later device name = some record := by
  obtain ⟨named, held, limited, unmarked, late⟩ := dueRecord_eq_some.mp due
  exact dueRecord_eq_some.mpr ⟨named, held, limited, unmarked, UInt64.le_trans late after⟩

/-- A sweep marks the due records, a second adds later ones. -/
theorem caAutoExpire_exact (written : ∀ path, env.write path = .done) (started : nowUnix ≠ 0) (device : Device) :
    caAutoExpire env nowUnix device =
        (.ok (UInt32.ofNat (dueCount nowUnix device device.fs.certDirs)), swept nowUnix device.fs.certDirs device) ∧
      (∀ earlier, earlier ≠ 0 → earlier ≤ nowUnix → caAutoExpire env earlier (caAutoExpire env nowUnix device).2 =
        (.ok 0, (caAutoExpire env nowUnix device).2)) ∧
      ∀ later, nowUnix ≤ later → (caAutoExpire env later (caAutoExpire env nowUnix device).2).2 =
        (caAutoExpire env later device).2 := by
  refine ⟨caAutoExpire_swept written started device, ?_, ?_⟩
  · intro earlier positive before
    have idle (name : Bytes) (listed : name ∈ device.fs.certDirs) :
        dueRecord earlier (swept nowUnix device.fs.certDirs device) name = none := by
      rw [dueRecord_swept]
      rcases due : dueRecord earlier device name with _ | record
      · simp
      · simp [marking, listed, dueRecord_later before due]
    rw [caAutoExpire_swept written started, caAutoExpire_swept written positive]
    have none : dueCount earlier (swept nowUnix device.fs.certDirs device) device.fs.certDirs = 0 :=
      List.countP_eq_zero.mpr fun name listed => by simp [idle name listed]
    exact Prod.ext (congrArg (Except.ok ∘ UInt32.ofNat) none) (swept_idle idle)
  · intro later after
    have positive : later ≠ 0 := by
      rintro rfl
      exact started (UInt64.le_antisymm after UInt64.zero_le)
    rw [caAutoExpire_swept written started, caAutoExpire_swept written positive, caAutoExpire_swept written positive]
    refine swept_swept fun other => ?_
    rw [marking, dueRecord_swept]
    by_cases listed : other ∈ device.fs.certDirs
    · rcases due : dueRecord nowUnix device other with _ | record
      · simp [marking, listed, due]
      · simp [marking, listed, due, dueRecord_later after due]
    · simp [marking, listed]

end Sweeps

/-- One certificate that ended at time 5. -/
def agedDevice : Device :=
  (storageIssuedMetaWrite (Faults.none 0) [1]
    { Issue.record ⟨[1], [], caSlot, []⟩ with notAfterUnix := 5 : IssuedMeta }.bytes Dispatcher.blankDevice).2

/-- The one due record is marked. -/
theorem agedDevice_expired :
    (caAutoExpire (Dispatcher.plainEnv 1) 7 agedDevice).1 = .ok 1 ∧
      (caAutoExpire (Dispatcher.plainEnv 1) 7 agedDevice).2 = swept 7 agedDevice.fs.certDirs agedDevice ∧
      (agedDevice.fs.certDirs.filterMap (recordAt (swept 7 agedDevice.fs.certDirs agedDevice))).map (·.flags) =
        [issuedFlagExpired] := by
  have outcome := caAutoExpire_exact (fun _ => rfl : ∀ path, (Dispatcher.plainEnv 1).write path = .done)
    (by decide : (7 : UInt64) ≠ 0) agedDevice
  have due : dueCount 7 agedDevice agedDevice.fs.certDirs = 1 := by decide +kernel
  rw [outcome.1, due]
  exact ⟨rfl, rfl, by decide +kernel⟩

/-! What a command may touch. -/

/-- A selected record gets one more flag, or is cut. -/
def Remarked (faults : Faults) (selected : IssuedMeta → Prop) (flag : UInt8) (device : Device) (path : Path)
    (content : Option Bytes) : Prop :=
  ∃ name record, path = .issued name .metadata ∧ recordAt device name = some record ∧ selected record ∧
    record.flags &&& flag = 0 ∧
    let marked : IssuedMeta := { record with flags := record.flags ||| flag }
    content = some marked.bytes ∨
      ∃ kept, faults.write path = .short (some kept) ∧ content = some (marked.bytes.take kept)

/-- A sweep changes free files and the records that it selects. -/
def Remarking (faults : Faults) (selected : IssuedMeta → Prop) (flag : UInt8) (free : Path → Prop)
    (before after : Device) : Prop :=
  ∀ path, free path ∨ after.fs.files path = before.fs.files path ∨
    Remarked faults selected flag before path (after.fs.files path)

section Remarking

variable {faults : Faults} {selected : IssuedMeta → Prop} {flag : UInt8} {device after : Device} {free : Path → Prop}
  {path : Path}

/-- A marked record is not selected again, even when cut. -/
theorem Remarked.done (nonzero : flag ≠ 0) {content : Option Bytes}
    (first : Remarked faults selected flag device path (after.fs.files path)) :
    ¬ Remarked faults selected flag after path content := by
  rintro ⟨name, record, rfl, held, _, unmarked, _⟩
  obtain ⟨_, old, same, _, _, _, stored⟩ := first
  obtain ⟨blob, file, parsed⟩ := Option.bind_eq_some_iff.mp held
  have leading : ∃ kept, blob = { old with flags := old.flags ||| flag : IssuedMeta }.bytes.take kept := by
    rcases stored with whole | ⟨kept, _, cut⟩
    · exact ⟨_, by rw [List.take_length]; exact Option.some.inj (file.symm.trans whole)⟩
    · exact ⟨kept, Option.some.inj (file.symm.trans cut)⟩
  obtain ⟨kept, rfl⟩ := leading
  have read := (parseIssuedMeta_ok (toOption_eq_some.mp parsed)).2
  rcases kept with _ | _ | kept
  · cases parsed
  · simp [IssuedMeta.bytes, parseIssuedMeta, issuedMetaSize, issuedMetaV1Size, Except.toOption] at parsed
  · rw [read] at unmarked
    exact flag_set old.flags nonzero unmarked

theorem remarking_preorder (nonzero : flag ≠ 0) : IsPreorder Device (Remarking faults selected flag free) where
  refl _ := fun _ => .inr (.inl rfl)
  trans before middle last first second path := by
    rcases first path with freed | same | changed
    · exact .inl freed
    · rcases second path with freed | again | ⟨name, record, rfl, held, rest⟩
      · exact .inl freed
      · exact .inr (.inl (again.trans same))
      · refine .inr (.inr ⟨name, record, rfl, ?_, rest⟩)
        rw [← held, recordAt, recordAt, same]
    · rcases second path with freed | again | twice
      · exact .inl freed
      · exact .inr (.inr (again ▸ changed))
      · exact absurd twice (changed.done nonzero)

instance : IsPreorder Device (Remarking faults selected issuedFlagExpired free) := remarking_preorder (by decide)

instance : IsPreorder Device (Remarking faults selected issuedFlagProtected free) := remarking_preorder (by decide)

/-- A record written back is marked, or it stays. -/
theorem remarking_selects : Selects (Remarking faults selected flag free) faults selected flag := by
  intro device serial record read chosen unmarked path
  have held := (recordAt_of_read read).2
  obtain ⟨blob, file, _⟩ := Option.bind_eq_some_iff.mp held
  rw [storageIssuedMetaWrite_of_read read]
  refine .inr ?_
  by_cases here : path = .issued (hexName serial) .metadata
  · subst here
    rcases writeFile_state faults (.issued (hexName serial) .metadata)
      { record with flags := record.flags ||| flag : IssuedMeta }.bytes device with
      same | made | ⟨content, stored, rest⟩
    · exact .inl (by rw [same])
    · exact .inl (by rw [made, Fs.mkdirP_files])
    · rw [stored, Fs.put_files, Function.update_self]
      rcases rest with ⟨_, rfl⟩ | rfl | ⟨kept, torn, rfl⟩
      · exact .inr ⟨_, record, rfl, held, chosen, unmarked, .inl rfl⟩
      · exact .inl (by rw [file]; rfl)
      · exact .inr ⟨_, record, rfl, held, chosen, unmarked, .inr ⟨kept, torn, rfl⟩⟩
  · exact .inl (writeFile_respects rfl _ device path (Ne.symm here))

theorem remarking_writable (inside : free path) : Writable (Remarking faults selected flag free) faults path :=
  (writable_of_touched inside).mono fun _ _ frame other => or_iff_not_imp_left.mpr fun kept => .inl (frame other kept)

end Remarking

end Ca

namespace Dispatcher
open Ca
open Protocol (Command)

/-- The files of the certificate whose serial is drawn. -/
def Issued (env : Env) (device : Device) (path : Path) : Prop :=
  ∃ serial file, (genSerial env device).1 = .ok serial ∧ path = .issued (hexName serial) file

/-- What a command may change, and a sweep may make of it. -/
def MayChange (config : Config) (env : Env) (data : Bytes) (device : Device) (path : Path) (content : Option Bytes) :
    Command → Prop
  | .signCsr | .signCsrSlot => Issued env device path
  | .signKeySlot => Issued env device path ∨ ∃ file ∈ [SlotFile.cert, .chain], path = .slot (slotArg (data.drop 4)) file
  | .revokeCert => path = .issued (hexName (revokedSerial data)) .metadata ∨
    ∃ record, (readIssuedMeta (revokedSerial data) device).1 = .ok record ∧ path = .slot record.issuerSlot .crlNumber
  | .autoExpire => Remarked env.toFaults (·.Ended (u64Arg 0 data)) issuedFlagExpired device path content
  | .protectSlot => path = .slot (slotArg data) .metadata ∨ data.getD 4 0 ≠ 0 ∧
    Remarked env.toFaults (·.issuerSlot = slotArg data) issuedFlagProtected device path content
  | .genKey => ∃ free file, (firstFreeSlot (keySlots config) device).1 = .ok free ∧ path = .slot free file
  | .pushCaCert | .provisionCa => ∃ file, path = .slot caSlot file
  | .unprotectSlot | .deleteKey | .genKeyCsr | .pushKeyCert | .pushKeyX509 => ∃ file, path = .slot (slotArg data) file
  | _ => ∃ id file, path = .client id file

section Footprint

variable {config : Config} {crypto : Crypto} {env : Env} {data : Bytes} {device after : Device} {command : Command}

/-- No command but a reset changes any other file. -/
theorem Effect.touches (effect : Effect config crypto env data device command after) (stays : command ≠ .resetDevice)
    (other : command ≠ .revokeCert) :
    SameOutside (fun path => MayChange config env data device path (after.fs.files path) command) device after := by
  cases effect with
  | refused => exact fun _ _ => rfl
  | signCsr | signCsrSlot =>
    exact caSignCsrSlot_related fun issue drawn =>
      persistIssue_respects (fun file => writable_of_touched ⟨issue.serial, file, drawn, rfl⟩) device
  | signKeySlot =>
    exact caSignKeySlot_related fun issue drawn =>
      (((writable_of_touched (.inr ⟨.cert, by simp, rfl⟩)).write _).bind fun _ =>
        (storageSlotChainDelete_respects (writable_of_touched (.inr ⟨.chain, by simp, rfl⟩))).attempt.bind fun _ =>
        persistIssue_respects fun file => writable_of_touched (.inl ⟨issue.serial, file, drawn, rfl⟩)) device
  | pushCaCert => exact caPushCert_respects (writable_of_touched ⟨_, rfl⟩) (writable_of_touched ⟨_, rfl⟩) _ _ device
  | autoExpire =>
    have swept : Remarking env.toFaults (·.Ended (u64Arg 0 data)) issuedFlagExpired (fun _ => False) device _ :=
      caAutoExpire_selects remarking_selects device
    exact fun path kept => (swept path).elim False.elim fun rest => rest.resolve_right kept
  | revokeCert => exact absurd rfl other
  | genKey =>
    exact caGenKey_related fun free found _ => createKey_respects (writable_of_touched ⟨free, _, found, rfl⟩)
      (writable_of_touched ⟨free, _, found, rfl⟩) _ device
  | protectSlot =>
    by_cases asked : data.getD 4 0 ≠ 0
    · have swept : Remarking env.toFaults (·.issuerSlot = slotArg data) issuedFlagProtected
          (Path.slot (slotArg data) .metadata = ·) device
          (caProtectSlot config env (slotArg data) (data.getD 4 0 ≠ 0) device).2 :=
        caProtectSlot_selects (remarking_writable rfl) (fun _ => remarking_selects) device
      intro path kept
      obtain ⟨unfree, unmarked⟩ := not_or.mp kept
      exact ((swept path).resolve_left (unfree ∘ Eq.symm)).resolve_right fun marked => unmarked ⟨asked, marked⟩
    · exact caProtectSlot_selects (writable_of_touched (.inl rfl)) (fun set => absurd (of_decide_eq_true set) asked)
        device
  | unprotectSlot => exact caUnprotectSlot_respects (writable_of_touched ⟨_, rfl⟩) device
  | deleteKey => exact caDeleteKey_respects (storageSlotDelete_respects fun file => ⟨file, rfl⟩) device
  | genKeyCsr => exact caGenKeyCsr_respects (writable_of_touched ⟨_, rfl⟩) _ device
  | pushKeyCert =>
    exact caPushKeyCert_respects (writable_of_touched ⟨_, rfl⟩) (writable_of_touched ⟨_, rfl⟩) _ _ device
  | pushKeyX509 =>
    exact caPushKeyX509_respects (writable_of_touched ⟨_, rfl⟩) (writable_of_touched ⟨_, rfl⟩)
      (writable_of_touched ⟨_, rfl⟩) _ device
  | provisionCa =>
    exact caProvision_related (setProvisioned_sameOutside _) fun _ _ =>
      createKey_respects (writable_of_touched ⟨_, rfl⟩) (writable_of_touched ⟨_, rfl⟩) _ device
  | resetDevice => exact absurd rfl stays
  | elsewhere _ bonds outside =>
    refine withClients_sameOutside (fun id file => ?_) device bonds
    cases command <;> first | exact ⟨id, file, rfl⟩ | exact absurd (by decide) outside

/-- A revocation touches its record and the number of its issuer. -/
theorem caRevokeCert_touches {touched : Path → Prop} {serial : Bytes}
    (own : touched (.issued (hexName serial) .metadata))
    (issuer : ∀ record, (readIssuedMeta serial device).1 = .ok record → touched (.slot record.issuerSlot .crlNumber))
    (nowUnix : UInt64) : SameOutside touched device (caRevokeCert env serial nowUnix device).2 := by
  apply Op.relates_ensure
  intro _
  apply Op.relates_reader
  intro record read
  exact (Op.Respects.read fun _ => .read fun _ =>
    (storageIssuedMetaWrite_respects (writable_of_touched own) _).bind fun _ =>
    .read fun _ =>
    ((writable_of_touched (issuer record read)).write _).attempt.bind fun _ => .pure _) device

/-- A command changes only what it names or selects. -/
theorem command_touches (config : Config) (crypto : Crypto) (env : Env) (data : Bytes) (device : Device)
    (command : Command) (stays : command ≠ .resetDevice) :
    SameOutside (fun path => MayChange config env data device path
      ((handle config crypto env data command device).2.fs.files path) command) device
      (handle config crypto env data command device).2 := by
  by_cases revokes : command = .revokeCert
  · subst revokes
    have ran : handle config crypto env data .revokeCert device = handleRevokeCert config env data device := rfl
    rcases handleRevokeCert_cases config env data device with refused | ⟨nowUnix, err, _, done⟩
    · rw [ran, refused]
      exact fun _ _ => rfl
    · rw [ran, done]
      exact caRevokeCert_touches (.inl rfl) (fun record read => .inr ⟨record, read, rfl⟩) nowUnix
  · exact (handle_effect command).touches stays revokes

/-- A new key touches its own slot only. -/
theorem genKey_touches : (handle .default plainCrypto (plainEnv 1) [] .genKey blankDevice).2.fs.files (.slot 1 .key) ≠
      blankDevice.fs.files (.slot 1 .key) ∧
    SameOutside (fun path => MayChange .default (plainEnv 1) [] blankDevice path
      ((handle .default plainCrypto (plainEnv 1) [] .genKey blankDevice).2.fs.files path) .genKey) blankDevice
      (handle .default plainCrypto (plainEnv 1) [] .genKey blankDevice).2 :=
  ⟨by decide +kernel, command_touches _ _ _ _ _ _ (by decide)⟩

end Footprint

end Dispatcher

end Cantil
