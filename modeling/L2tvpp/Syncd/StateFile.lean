import L2tvpp.Lib.JsonRoundTrip
import L2tvpp.Syncd.Healing

/-!
# The text of the state file

`_save_state` writes the record as JSON to a second file and renames it over
the first; `_load_state` reads the first.  A process may die, or the loop of
`run_daemon` catch an exception, after any of the steps of a save.
-/

namespace L2tvpp.Syncd

open L2tvpp.Lib L2tvpp.Plugin

/-! ## The record as JSON -/

/-- The strings of the kernel's listings, as the record holds them. -/
structure AddressText where
  address : IpAddress → Text
  route : IpPrefix → Text
  address_inj : ∀ {ip ip'}, address ip = address ip' → ip = ip'
  route_inj : ∀ {pfx pfx'}, route pfx = route pfx' → pfx = pfx'

def stringJson (text : Text) : Json := .string (codePoints text)

/-- `~0` is the number 0xFFFFFFFF. -/
def indexJson : Option Nat → Json
  | none => .int 0xFFFFFFFF
  | some index => .int index

def idJson (id : U16) : Json := .int id.toNat

/-- The key `"%d/%d" % session_key(s)`. -/
def sessionText (key : SessionKey) : Text :=
  decimalText key.1.toNat ++ '/' :: decimalText key.2.toNat

section Record

variable (A : AddressText)

def recordJson (rec : InstalledRec) : Json :=
  .object [
    (codePoints "sw_if_index".toList, indexJson rec.swIfIndex),
    (codePoints "tunnel_index".toList, indexJson rec.tunnelIndex),
    (codePoints "local_sid".toList, idJson rec.localSid),
    (codePoints "peer_sid".toList, idJson rec.peerSid),
    (codePoints "tunnel_key".toList, .array [
      stringJson (A.address rec.tunnelKey.1), idJson rec.tunnelKey.2.1,
      idJson rec.tunnelKey.2.2]),
    (codePoints "routes".toList,
      .array (rec.routes.map fun pfx => stringJson (A.route pfx)))]

def itemJson (item : SessionKey × InstalledRec) : CodePoints × Json :=
  (codePoints (sessionText item.1), recordJson A item.2)

def installedJson (installed : InstalledDict) : Json :=
  .object (installed.items.map (itemJson A))

/-! ## Saving and loading -/

/-- The state file and `state_path + ".tmp"`. -/
structure StateFiles where
  state : Option Text
  tmp : Option Text

inductive FileStep where
  /-- `open(tmp, "w")` leaves an empty file. -/
  | openTmp
  | write (chunk : Text)
  /-- `os.replace(tmp, self.state_path)` -/
  | replace

def StateFiles.step (files : StateFiles) : FileStep → StateFiles
  | .openTmp => { files with tmp := some [] }
  | .write chunk => { files with tmp := files.tmp.map (· ++ chunk) }
  | .replace =>
      match files.tmp with
      | none => files
      | some text => ⟨some text, none⟩

/-- The pieces in which what `json.dump` writes reaches the file. -/
structure Buffering where
  cut : Text → List Text
  flatten_cut : ∀ text, (cut text).flatten = text

/-- The steps of `_save_state`. -/
def saveSteps (B : Buffering) (installed : InstalledDict) : List FileStep :=
  .openTmp :: (B.cut (dumpsJson (installedJson A installed))).map .write ++
    [.replace]

/-- `_load_state`: a file that is not there, or is not JSON, is an empty
dictionary. -/
def loadStateText (statePath : Bool) (file : Option Text) : Json :=
  if statePath then
    match file with
    | none => .object []
    | some text => (loadsJson text).getD (.object [])
  else .object []

/-! ## The JSON determines the record -/

theorem decimalText_inj {n n' : Nat} (h : decimalText n = decimalText n') :
    n = n' := by
  rw [← intOfDecimal_decimalText n, h, intOfDecimal_decimalText]

theorem sessionText_inj {key key' : SessionKey}
    (h : sessionText key = sessionText key') : key = key' := by
  have hdigits : ∀ (n : Nat) (rest : Text),
      (decimalText n ++ '/' :: rest).takeWhile Char.isDigit = decimalText n ∧
      (decimalText n ++ '/' :: rest).dropWhile Char.isDigit = '/' :: rest := by
    intro n rest
    have hall : ∀ c ∈ decimalText n, c.isDigit = true :=
      fun _ => isDigit_decimalText
    simp [List.takeWhile_append_of_pos hall, List.dropWhile_append_of_pos hall]
  have htid := congrArg (List.takeWhile Char.isDigit) h
  have hsid := congrArg (List.dropWhile Char.isDigit) h
  simp only [sessionText, hdigits] at htid hsid
  have hrest := (List.cons.inj hsid).2
  exact Prod.ext (BitVec.eq_of_toNat_eq (decimalText_inj htid))
    (BitVec.eq_of_toNat_eq (decimalText_inj hrest))

theorem stringJson_inj {text text' : Text}
    (h : stringJson text = stringJson text') : text = text' :=
  codePoints_inj.mp (Json.string.inj h)

theorem idJson_inj {id id' : U16} (h : idJson id = idJson id') : id = id' :=
  BitVec.eq_of_toNat_eq (Int.ofNat.inj (Json.int.inj h))

/-- Not the number that stands for `~0`. -/
def IndexFits (index : Option Nat) : Prop := ∀ n ∈ index, n < 0xFFFFFFFF

theorem indexJson_inj {index index' : Option Nat} (hfits : IndexFits index)
    (hfits' : IndexFits index') (h : indexJson index = indexJson index') :
    index = index' := by
  cases index with
  | none =>
      cases index' with
      | none => rfl
      | some n' =>
          have hlt := hfits' n' rfl
          have heq := Json.int.inj h
          omega
  | some n =>
      cases index' with
      | none =>
          have hlt := hfits n rfl
          have heq := Json.int.inj h
          omega
      | some n' => exact congrArg some (Int.ofNat.inj (Json.int.inj h))

def RecordFits (rec : InstalledRec) : Prop :=
  IndexFits rec.swIfIndex ∧ IndexFits rec.tunnelIndex

theorem recordJson_inj {rec rec' : InstalledRec} (hfits : RecordFits rec)
    (hfits' : RecordFits rec') (h : recordJson A rec = recordJson A rec') :
    rec = rec' := by
  obtain ⟨sw, tunnel, localSid, peerSid, ⟨peer, port, tid⟩, routes⟩ := rec
  obtain ⟨sw', tunnel', localSid', peerSid', ⟨peer', port', tid'⟩, routes'⟩ :=
    rec'
  simp only [recordJson, Json.object.injEq, List.cons.injEq, Prod.mk.injEq,
    Json.array.injEq, true_and, and_true] at h
  obtain ⟨hsw, htunnel, hlocal, hpeer, ⟨haddress, hport, htid⟩, hroutes⟩ := h
  have hinj : Function.Injective fun pfx => stringJson (A.route pfx) :=
    fun _ _ heq => A.route_inj (stringJson_inj heq)
  obtain rfl : sw = sw' := indexJson_inj hfits.1 hfits'.1 hsw
  obtain rfl : tunnel = tunnel' := indexJson_inj hfits.2 hfits'.2 htunnel
  obtain rfl := idJson_inj hlocal
  obtain rfl := idJson_inj hpeer
  obtain rfl := A.address_inj (stringJson_inj haddress)
  obtain rfl := idJson_inj hport
  obtain rfl := idJson_inj htid
  obtain rfl := List.map_injective_iff.mpr hinj hroutes
  rfl

theorem itemJson_inj {item item' : SessionKey × InstalledRec}
    (hfits : RecordFits item.2) (hfits' : RecordFits item'.2)
    (h : itemJson A item = itemJson A item') : item = item' := by
  rw [itemJson, itemJson, Prod.mk.injEq] at h
  exact Prod.ext (sessionText_inj (codePoints_inj.mp h.1))
    (recordJson_inj A hfits hfits' h.2)

theorem installedJson_inj {installed installed' : InstalledDict}
    (hfits : ∀ item ∈ installed.items, RecordFits item.2)
    (hfits' : ∀ item ∈ installed'.items, RecordFits item.2)
    (h : installedJson A installed = installedJson A installed') :
    installed = installed' := by
  have hlist : ∀ items items' : List (SessionKey × InstalledRec),
      (∀ item ∈ items, RecordFits item.2) →
      (∀ item ∈ items', RecordFits item.2) →
      items.map (itemJson A) = items'.map (itemJson A) → items = items' := by
    intro items
    induction items with
    | nil => intro items' _ _ hmap; simpa using hmap.symm
    | cons item items ih =>
        intro items' hfits hfits' hmap
        cases items' with
        | nil => simp at hmap
        | cons item' items' =>
            rw [List.forall_mem_cons] at hfits hfits'
            rw [List.map_cons, List.map_cons, List.cons.injEq] at hmap
            rw [itemJson_inj A hfits.1 hfits'.1 hmap.1,
              ih items' hfits.2 hfits'.2 hmap.2]
  have hitems := hlist _ _ hfits hfits' (Json.object.inj h)
  obtain ⟨items, nodup⟩ := installed
  obtain ⟨items', nodup'⟩ := installed'
  obtain rfl : items = items' := hitems
  rfl

/-! ## The text is read back -/

theorem printable_recordJson (rec : InstalledRec) :
    (recordJson A rec).Printable := by
  have hindex : ∀ index, (indexJson index).Printable := by
    intro index
    cases index <;> exact .int _
  have hstring : ∀ text, (stringJson text).Printable :=
    fun text => .string (scalars_codePoints text)
  refine .object ?_ ?_ ?_
  · simp only [List.map_cons, List.map_nil]
    decide
  · simp [scalars_codePoints]
  · simp only [List.forall_mem_cons, List.not_mem_nil, false_implies,
      implies_true, and_true]
    refine ⟨hindex _, hindex _, .int _, .int _, .array ?_, .array ?_⟩
    · simp only [List.forall_mem_cons, List.not_mem_nil, false_implies,
        implies_true, and_true]
      exact ⟨hstring _, .int _, .int _⟩
    · intro item hitem
      obtain ⟨pfx, -, rfl⟩ := List.mem_map.mp hitem
      exact hstring _

theorem printable_installedJson (installed : InstalledDict) :
    (installedJson A installed).Printable := by
  refine .object ?_ ?_ ?_
  · have hnodup := installed.nodup.map (f := fun key =>
      codePoints (sessionText key)) fun _ _ heq =>
        sessionText_inj (codePoints_inj.mp heq)
    rwa [List.map_map] at hnodup ⊢
  · intro member hmember
    obtain ⟨item, -, rfl⟩ := List.mem_map.mp hmember
    exact scalars_codePoints _
  · intro member hmember
    obtain ⟨item, -, rfl⟩ := List.mem_map.mp hmember
    exact printable_recordJson A item.2

end Record

/-! ## Saves that are broken off -/

section Files

variable (A : AddressText) (B : Buffering) {files : StateFiles}

theorem step_state {step : FileStep} (h : step ≠ .replace) :
    (files.step step).state = files.state := by
  cases step with
  | openTmp => rfl
  | write chunk => rfl
  | replace => contradiction

theorem foldl_step_state {steps : List FileStep}
    (h : ∀ step ∈ steps, step ≠ .replace) :
    (steps.foldl StateFiles.step files).state = files.state := by
  induction steps generalizing files with
  | nil => rfl
  | cons step steps ih =>
      rw [List.forall_mem_cons] at h
      rw [List.foldl_cons, ih h.2, step_state h.1]

theorem foldl_write {text : Text} (htmp : files.tmp = some text)
    (chunks : List Text) :
    (chunks.map FileStep.write).foldl StateFiles.step files =
      { files with tmp := some (text ++ chunks.flatten) } := by
  induction chunks generalizing files text with
  | nil =>
      obtain ⟨state, tmp⟩ := files
      obtain rfl : tmp = some text := htmp
      simp
  | cons chunk chunks ih =>
      have hnext : (files.step (.write chunk)).tmp = some (text ++ chunk) := by
        simp [StateFiles.step, htmp]
      rw [List.map_cons, List.foldl_cons, ih hnext]
      simp [StateFiles.step]

/-- What was in the second file before does not matter. -/
theorem foldl_saveSteps (installed : InstalledDict) :
    (saveSteps A B installed).foldl StateFiles.step files =
      ⟨some (dumpsJson (installedJson A installed)), none⟩ := by
  have hopen : (files.step .openTmp).tmp = some [] := rfl
  rw [saveSteps, List.cons_append, List.foldl_cons, List.foldl_append,
    foldl_write hopen, B.flatten_cut]
  rfl

theorem saveSteps_cut {installed : InstalledDict} {n : Nat}
    (h : n < (saveSteps A B installed).length) :
    (((saveSteps A B installed).take n).foldl StateFiles.step files).state =
      files.state := by
  refine foldl_step_state fun step hstep => ?_
  rw [saveSteps, List.length_append, List.length_singleton] at h
  rw [saveSteps, List.take_append_of_le_length (by omega)] at hstep
  have hmem := List.mem_of_mem_take hstep
  rcases List.mem_cons.mp hmem with rfl | hwrite
  · simp
  · obtain ⟨chunk, -, rfl⟩ := List.mem_map.mp hwrite
    simp

/-- The file holds the record; without one, it is not there or not JSON. -/
def FileHolds (file : Option Text) : Option InstalledDict → Prop
  | none => ∀ text ∈ file, loadsJson text = none
  | some installed => file = some (dumpsJson (installedJson A installed))

theorem FileHolds.load {file : Option Text} {saved : Option InstalledDict}
    (h : FileHolds A file saved) (cfg : Config) :
    loadStateText cfg.statePath file =
      installedJson A (loadState cfg saved) := by
  unfold loadStateText loadState
  split
  · cases saved with
    | none =>
        cases file with
        | none => rfl
        | some text =>
            dsimp only
            rw [h text rfl]
            rfl
    | some installed =>
        rw [FileHolds] at h
        rw [h]
        dsimp only
        rw [loads_dumps (printable_installedJson A installed)]
        rfl
  · rfl

/-! ## Runs of the daemon -/

/-- The daemon with its files.  `world.stateFile` is the file of a daemon whose
saves are not broken off. -/
structure Host where
  world : World
  files : StateFiles

inductive HostEvent where
  /-- A pass, which an interrupt may break off at a call; when it comes to its
  end, so many steps of the save are done before an exception or a signal. -/
  | pass (pass : Pass) (interrupt : Option Interrupt) (saved : Nat)
  | restart
  | restartVpp (hwInterfaces : List HwInterface)
      (swInterfaces : List SwInterface)

variable (cfg : Config)

def Host.save (before : World) (saved : Nat) (files : StateFiles) (w : World) :
    Host :=
  if cfg.statePath then
    let steps := saveSteps A B w.installed
    ⟨if saved < steps.length then { w with stateFile := before.stateFile }
      else w, (steps.take saved).foldl StateFiles.step files⟩
  else ⟨w, files⟩

def hostStep (host : Host) : HostEvent → Host
  | .pass pass interrupt saved =>
      match exec (reconcile cfg pass)
        (host.world.startInterrupted interrupt) with
      | (.error _, w) => ⟨w, host.files⟩
      | (.ok _, w) => Host.save A B cfg host.world saved host.files w
  | .restart => { host with world := host.world.resume cfg .restart }
  | .restartVpp hwInterfaces swInterfaces =>
      { host with world := host.world.restart cfg hwInterfaces swInterfaces }

theorem stateFile_of_returned {pass : Pass} {w w' : World} {result : Nat × Nat}
    (hpath : cfg.statePath = true)
    (h : exec (reconcile cfg pass) w = (.ok result, w')) :
    w'.stateFile = some w'.installed := by
  have hkeep : StepsKeep cfg fun _ => True := ⟨fun _ _ h => h, fun _ _ h => h⟩
  have hsave : Triple (fun _ => True) (reconcile cfg pass)
      (fun _ m => m.stateFile = some m.installed) fun _ => True :=
    hkeep.reconcile fun m _ => by rw [if_pos hpath]
  exact hsave.ok trivial h

theorem FileHolds.save {host : Host}
    (h : FileHolds A host.files.state host.world.stateFile) {pass : Pass}
    {interrupt : Option Interrupt} {result : Nat × Nat} {w : World}
    (hexec : exec (reconcile cfg pass) (host.world.startInterrupted interrupt) =
      (.ok result, w)) (saved : Nat) :
    FileHolds A (Host.save A B cfg host.world saved host.files w).files.state
      (Host.save A B cfg host.world saved host.files w).world.stateFile := by
  unfold Host.save
  cases hpath : cfg.statePath with
  | false =>
      rw [if_neg (by simp), stateFile_of_unsaved hpath hexec]
      exact h
  | true =>
      rw [if_pos rfl]
      dsimp only
      split
      · rename_i hcut
        rw [saveSteps_cut A B hcut]
        exact h
      · rename_i hall
        rw [List.take_of_length_le (by omega), foldl_saveSteps,
          stateFile_of_returned cfg hpath hexec]
        rfl

theorem FileHolds.step {host : Host}
    (h : FileHolds A host.files.state host.world.stateFile)
    (event : HostEvent) :
    FileHolds A (hostStep A B cfg host event).files.state
      (hostStep A B cfg host event).world.stateFile := by
  cases event with
  | pass pass interrupt saved =>
      rw [hostStep]
      split
      · rename_i e w hexec
        rw [stateFile_of_raised hexec]
        exact h
      · rename_i result w hexec
        exact h.save A B cfg hexec saved
  | restart => exact h
  | restartVpp hwInterfaces swInterfaces => exact h

theorem FileHolds.run {host : Host}
    (h : FileHolds A host.files.state host.world.stateFile)
    (events : List HostEvent) :
    FileHolds A (events.foldl (hostStep A B cfg) host).files.state
      (events.foldl (hostStep A B cfg) host).world.stateFile := by
  induction events generalizing host with
  | nil => exact h
  | cons event events ih => exact ih (h.step A B cfg event)

/-- Wherever passes and saves are broken off, the file is loaded as the record
that the last save was about that came to its end, and as no other one. -/
theorem stateFile_crashSafe (hwInterfaces : Pool HwInterface)
    (swInterfaces : Pool SwInterface) (file tmp : Option Text)
    (hfile : ∀ text ∈ file, loadsJson text = none) (events : List HostEvent) :
    let host := events.foldl (hostStep A B cfg)
      ⟨World.initial hwInterfaces swInterfaces, ⟨file, tmp⟩⟩
    let loaded := loadState cfg host.world.stateFile
    loadStateText cfg.statePath host.files.state = installedJson A loaded ∧
      ∀ installed : InstalledDict,
        (∀ item ∈ installed.items, RecordFits item.2) →
        (∀ item ∈ loaded.items, RecordFits item.2) →
        loadStateText cfg.statePath host.files.state =
          installedJson A installed →
        installed = loaded := by
  intro host loaded
  have hstart : FileHolds A file (World.initial hwInterfaces
      swInterfaces).stateFile := hfile
  have hload : loadStateText cfg.statePath host.files.state =
      installedJson A loaded := (FileHolds.run A B cfg hstart events).load A cfg
  refine ⟨hload, fun installed hfits hloaded heq => ?_⟩
  exact installedJson_inj A hfits hloaded (heq.symm.trans hload)

end Files

theorem hexText_inj {upper : Nat → Bool} {width : Nat}
    {n n' : BitVec (4 * width)}
    (h : hexText upper width n.toNat = hexText upper width n'.toNat) : n = n' := by
  have hnumber := congrArg intOfHex h
  have hpow : 2 ^ (4 * width) = 16 ^ width := by
    rw [Nat.pow_mul]
  have hlt := n.isLt
  have hlt' := n'.isLt
  rw [intOfHex_hexText, intOfHex_hexText, ← hpow, Nat.mod_eq_of_lt hlt,
    Nat.mod_eq_of_lt hlt'] at hnumber
  exact BitVec.eq_of_toNat_eq hnumber

def hexAddress : IpAddress → Text
  | .v4 address => hexText (fun _ => false) 8 address.toNat
  | .v6 address => hexText (fun _ => false) 32 address.toNat

theorem hexAddress_inj {ip ip' : IpAddress}
    (h : hexAddress ip = hexAddress ip') : ip = ip' := by
  have hlength := congrArg List.length h
  cases ip with
  | v4 address =>
      cases ip' with
      | v4 address' => exact congrArg IpAddress.v4 (hexText_inj h)
      | v6 address' =>
          simp only [hexAddress, length_hexText] at hlength
          omega
  | v6 address =>
      cases ip' with
      | v4 address' =>
          simp only [hexAddress, length_hexText] at hlength
          omega
      | v6 address' => exact congrArg IpAddress.v6 (hexText_inj h)

/-- Addresses and prefixes by their hexadecimal digits. -/
def hexAddresses : AddressText where
  address := hexAddress
  route pfx := hexAddress pfx.address ++ hexText (fun _ => false) 2 pfx.len.toNat
  address_inj := hexAddress_inj
  route_inj := by
    intro pfx pfx' h
    have hlength := congrArg List.length h
    simp only [List.length_append, length_hexText] at hlength
    obtain ⟨haddress, hlen⟩ := List.append_inj h (by omega)
    obtain ⟨address, len, hcanonical⟩ := pfx
    obtain ⟨address', len', hcanonical'⟩ := pfx'
    obtain rfl : address = address' := hexAddress_inj haddress
    obtain rfl : len = len' := hexText_inj hlen
    rfl

def charByChar : Buffering where
  cut text := text.map fun c => [c]
  flatten_cut text := by
    rw [← List.flatMap_def, List.flatMap_singleton']

/-- The save of the first pass is broken off in the text, that of the second is
not; then a new process comes. -/
def brokenSave : List HostEvent :=
  [.pass (testPass [oldSubscriber]) none 20, .restart,
    .pass (testPass [newSubscriber]) none 100000, .restart]

theorem stateFile_crashSafe_brokenSave :
    let host := brokenSave.foldl
      (hostStep hexAddresses charByChar testConfig)
      ⟨World.initial Pool.empty Pool.empty, ⟨some ['{'], none⟩⟩
    let loaded := loadState testConfig host.world.stateFile
    loadStateText testConfig.statePath host.files.state =
        installedJson hexAddresses loaded ∧
      ∀ installed : InstalledDict,
        (∀ item ∈ installed.items, RecordFits item.2) →
        (∀ item ∈ loaded.items, RecordFits item.2) →
        loadStateText testConfig.statePath host.files.state =
          installedJson hexAddresses installed →
        installed = loaded :=
  stateFile_crashSafe hexAddresses charByChar testConfig Pool.empty Pool.empty
    (some ['{']) none
    (by simp [loadsJson, skipSpace, isJsonSpace, scanValue, scanMembers])
    brokenSave

end L2tvpp.Syncd
