import GlusterBlock.Lib.Buffer
import GlusterBlock.ReplaceReport
import GlusterBlock.Recorded

/-! The create call on its way to a node: the trailing data of each version, the
procedure the sender picks by a magic number in it, and what the node makes of it. -/
namespace GlusterBlock

def hostNameMax : Nat := 64

def gbXdataMagicNum : Nat := 0xABCD2019DCBA

def gbXdataGenMagic (ver : Nat) : Nat := gbXdataMagicNum <<< 16 ||| ver &&& 0xFFFF

def gbXdataGetMagicVer (magic : Nat) : Nat := magic &&& 0xFFFF

def gbXdataIsMagic (magic : Nat) : Bool := magic >>> 16 == gbXdataMagicNum

/-- `struct gbCreate` behind the magic number. -/
def gbXdataBytes (ver : Nat) (volServer : String) (blkSize ioTimeout : Nat) : List UInt8 :=
  Buffer.leBytes 8 (gbXdataGenMagic ver) ++ (Buffer.padded hostNameMax volServer ++
    (Buffer.leBytes 8 blkSize ++ Buffer.leBytes 8 ioTimeout))

/-- The trailing data as it is sent. -/
def CreateXdata.bytes : CreateXdata → List UInt8
  | .v4 volServer blkSize ioTimeout => gbXdataBytes 4 volServer blkSize ioTimeout
  | .v3 volServer blkSize => gbXdataBytes 3 volServer blkSize 0
  | .v2 volServer => Buffer.ofText volServer

/-- The buffer that it is sent from: the plain name is that of the configuration. -/
def CreateXdata.buffer : CreateXdata → List UInt8
  | .v2 volServer => Buffer.padded hostNameMax volServer
  | x => x.bytes

structure BlockCreate where
  ipaddr : Addr
  volume : String
  gbid : String
  passwd : String
  size : Nat
  blockName : String
  blockHosts : String
  authMode : Bool
  deriving DecidableEq, Repr

def convertTypeCreate2ToCreate (blk : BlockCreate2) : BlockCreate where
  ipaddr := blk.ipaddr
  volume := blk.volume
  gbid := blk.gbid
  passwd := blk.passwd
  size := blk.size
  blockName := blk.blockName
  blockHosts := blk.blockHosts
  authMode := blk.authMode

/-- What the node's common routine is called with. -/
structure CommonArgs where
  blk : BlockCreate
  control : Option String
  volServer : Option String
  prioPath : Option String
  ioTimeout : Nat
  deriving DecidableEq, Repr

def blockCreate (blk : BlockCreate) : CommonArgs where
  blk := blk
  control := none
  volServer := none
  prioPath := none
  ioTimeout := 0

def controlText (rbSize blkSize : Nat) : Option String :=
  if rbSize = 0 ∧ blkSize = 0 then none
  else some (" control=" ++ (if rbSize = 0 then "" else "max_data_area_mb=" ++ toString rbSize ++ ",")
    ++ if blkSize = 0 then "" else "hw_block_size=" ++ toString blkSize)

/-- The trailing data as the node reads it: volfile server, block size and timeout.
`behind` is the memory behind what arrived. -/
def readXdata (xdata behind : List UInt8) : Option String × Nat × Nat :=
  let len := xdata.length
  let buf := xdata ++ behind
  let magic := Buffer.readLE 0 8 buf
  let volServer := Buffer.textAt 8 buf
  let blkSize := Buffer.readLE 72 8 buf
  if 0 < len ∧ gbXdataIsMagic magic then
    match gbXdataGetMagicVer magic with
    | 4 => (some volServer, blkSize, Buffer.readLE 80 8 buf)
    | 3 => (some volServer, blkSize, 0)
    | _ => (none, 0, 0)
  else if 0 < len ∧ len ≤ hostNameMax then (some (Buffer.textAt 0 (xdata ++ [0])), 0, 0)
  else (none, 0, 0)

def blockCreateV2 (blk : BlockCreate2) (xdata behind : List UInt8) : CommonArgs :=
  let (volServer, blkSize, ioTimeout) := readXdata xdata behind
  { blk := convertTypeCreate2ToCreate blk, control := controlText blk.rbSize blkSize,
    volServer := volServer, prioPath := some blk.prioPath, ioTimeout := ioTimeout }

/-- The case of a create call in `glusterBlockCallRPC_1`, up to the routine on the
node. -/
def glusterBlockCallCreate (host : Addr) (cobj : BlockCreate2) (behind : List UInt8) :
    CommonArgs :=
  let cobj := { cobj with ipaddr := host }
  if gbXdataIsMagic (Buffer.readLE 0 8 cobj.xdata.buffer) ∨ cobj.rbSize ≠ 0 ∨ cobj.prioPath ≠ ""
  then blockCreateV2 cobj cobj.xdata.bytes behind
  else blockCreate (convertTypeCreate2ToCreate cobj)

/-- What the sender means a node to use. -/
structure CreateParams where
  volServer : String
  ioTimeout : Nat
  prioPath : String
  rbSize : Nat
  blkSize : Nat
  deriving DecidableEq, Repr

/-- The routine on the node gets exactly these. No priority path and an empty one are
the same to it. -/
def CommonArgs.carries (a : CommonArgs) (p : CreateParams) : Prop :=
  a.volServer = some p.volServer ∧ a.ioTimeout = p.ioTimeout ∧
    a.prioPath.getD "" = p.prioPath ∧ a.control = controlText p.rbSize p.blkSize

/-- A name as the configuration holds it: short enough for its array, and without
blanks and control characters. -/
structure IsServerName (s : String) : Prop where
  short : s.length < hostNameMax
  graphic : ∀ c ∈ s.toList, 0x20 < c.toNat ∧ c.toNat < 0x100

section Wire

variable {volServer : String} {blkSize ioTimeout : Nat}

theorem IsServerName.clean (name : IsServerName volServer) : Buffer.IsCText volServer := by
  intro c hc
  obtain ⟨low, high⟩ := name.graphic c hc
  exact ⟨by omega, high⟩

theorem magic_gen {ver : Nat} (known : ver = 3 ∨ ver = 4) :
    gbXdataGenMagic ver < 256 ^ 8 ∧ gbXdataIsMagic (gbXdataGenMagic ver) = true ∧
      gbXdataGetMagicVer (gbXdataGenMagic ver) = ver := by
  rcases known with rfl | rfl <;> decide

theorem gbXdata_magic {ver : Nat} (known : ver = 3 ∨ ver = 4) (behind : List UInt8) :
    Buffer.readLE 0 8 (gbXdataBytes ver volServer blkSize ioTimeout ++ behind) =
      gbXdataGenMagic ver := by
  unfold gbXdataBytes
  rw [List.append_assoc]
  have front := Buffer.readLE_at [] (show [].length = 0 from rfl) 8 (gbXdataGenMagic ver)
    ((Buffer.padded hostNameMax volServer ++
      (Buffer.leBytes 8 blkSize ++ Buffer.leBytes 8 ioTimeout)) ++ behind)
  rw [List.nil_append] at front
  rw [front, Nat.mod_eq_of_lt (magic_gen known).1]

theorem gbXdata_fields (name : IsServerName volServer) (blk : blkSize < 2 ^ 64)
    (io : ioTimeout < 2 ^ 64) (ver : Nat) (behind : List UInt8) :
    Buffer.textAt 8 (gbXdataBytes ver volServer blkSize ioTimeout ++ behind) = volServer ∧
      Buffer.readLE 72 8 (gbXdataBytes ver volServer blkSize ioTimeout ++ behind) = blkSize ∧
      Buffer.readLE 80 8 (gbXdataBytes ver volServer blkSize ioTimeout ++ behind) = ioTimeout := by
  let magic := Buffer.leBytes 8 (gbXdataGenMagic ver)
  let server := Buffer.padded hostNameMax volServer
  let size := Buffer.leBytes 8 blkSize
  let timeout := Buffer.leBytes 8 ioTimeout
  have magicLength : magic.length = 8 := Buffer.leBytes_length 8 _
  have serverLength : server.length = 64 := Buffer.padded_length (Nat.le_of_lt name.short)
  have sizeLength : size.length = 8 := Buffer.leBytes_length 8 _
  have wide : 256 ^ 8 = 2 ^ 64 := by decide
  refine ⟨?_, ?_, ?_⟩
  · have shown : gbXdataBytes ver volServer blkSize ioTimeout ++ behind =
        magic ++ (server ++ (size ++ timeout ++ behind)) := by
      simp [gbXdataBytes, magic, server, size, timeout]
    rw [shown]
    exact Buffer.textAt_padded _ _ name.clean magicLength name.short
  · have shown : gbXdataBytes ver volServer blkSize ioTimeout ++ behind =
        (magic ++ server) ++ (size ++ (timeout ++ behind)) := by
      simp [gbXdataBytes, magic, server, size, timeout]
    have start : (magic ++ server).length = 72 := by
      rw [List.length_append, magicLength, serverLength]
    rw [shown, Buffer.readLE_at _ start _ _ _, wide, Nat.mod_eq_of_lt blk]
  · have shown : gbXdataBytes ver volServer blkSize ioTimeout ++ behind =
        (magic ++ server ++ size) ++ (timeout ++ behind) := by
      simp [gbXdataBytes, magic, server, size, timeout]
    have start : (magic ++ server ++ size).length = 80 := by
      rw [List.length_append, List.length_append, magicLength, serverLength, sizeLength]
    rw [shown, Buffer.readLE_at _ start _ _ _, wide, Nat.mod_eq_of_lt io]

theorem magic_byte {buf : List UInt8} {b : UInt8} (here : buf[4]? = some b)
    (magic : gbXdataIsMagic (Buffer.readLE 0 8 buf) = true) : b = 0x19 := by
  have within : ((buf.drop 0).take 8)[4]? = some b := by
    rw [List.drop_zero, List.getElem?_take_of_lt (by decide), here]
  have digit := Buffer.leValue_digit within
  have num : Buffer.readLE 0 8 buf / 2 ^ 16 = gbXdataMagicNum := by
    rw [← Nat.shiftRight_eq_div_pow]
    exact beq_iff_eq.mp magic
  have byte : Buffer.readLE 0 8 buf / 256 ^ 4 % 256 = gbXdataMagicNum / 256 ^ 2 % 256 := by
    rw [← num, Nat.div_div_eq_div_mul, show 2 ^ 16 * 256 ^ 2 = 256 ^ 4 from rfl]
  have value : b.toNat = 0x19 := digit.symm.trans byte
  exact UInt8.toNat_inj.mp value

theorem IsServerName.byte (name : IsServerName volServer) {b : UInt8}
    (hb : b ∈ Buffer.ofText volServer) : 0x20 < b.toNat := by
  obtain ⟨c, hc, rfl⟩ := List.mem_map.mp hb
  obtain ⟨low, high⟩ := name.graphic c hc
  rw [UInt8.toNat_ofNat_of_lt' high]
  exact low

/-- The buffer of a plain name is not taken for a magic number by the sender. -/
theorem buffer_plain (name : IsServerName volServer) :
    gbXdataIsMagic (Buffer.readLE 0 8 (Buffer.padded hostNameMax volServer)) = false := by
  by_contra magic
  have length : (Buffer.padded hostNameMax volServer).length = 64 :=
    Buffer.padded_length (Nat.le_of_lt name.short)
  obtain ⟨b, here⟩ : ∃ b, (Buffer.padded hostNameMax volServer)[4]? = some b :=
    ⟨_, List.getElem?_eq_getElem (by omega)⟩
  have byte := magic_byte here (Bool.not_eq_false _ ▸ magic)
  rcases List.mem_append.mp (List.mem_of_getElem? here) with text | zeros
  · have low := name.byte text
    rw [byte] at low
    exact absurd low (by decide)
  · rw [List.eq_of_mem_replicate zeros] at byte
    cases byte

/-- Even then the version is none that a node knows. -/
theorem name_version (name : IsServerName volServer) (some_name : volServer ≠ "")
    (behind : List UInt8) :
    let ver := gbXdataGetMagicVer (Buffer.readLE 0 8 (Buffer.ofText volServer ++ behind))
    ver ≠ 3 ∧ ver ≠ 4 := by
  cases bytes : Buffer.ofText volServer with
  | nil =>
    have length := Buffer.ofText_length volServer
    rw [bytes] at length
    exact absurd (String.length_eq_zero_iff.mp length.symm) some_name
  | cons b rest =>
    have low := name.byte (b := b) (bytes ▸ List.mem_cons_self)
    have first : ((b :: rest ++ behind).drop 0).take 8 = b :: (rest ++ behind).take 7 := rfl
    have mod : ∀ v : Nat, v &&& 0xFFFF = v % 2 ^ 16 := fun v => Nat.and_two_pow_sub_one_eq_mod v 16
    have byte : b.toNat < 256 := b.toNat_lt
    dsimp only
    unfold gbXdataGetMagicVer Buffer.readLE
    rw [first, Buffer.leValue_cons, mod]
    omega

theorem readXdata_v4 (name : IsServerName volServer) (blk : blkSize < 2 ^ 64)
    (io : ioTimeout < 2 ^ 64) (behind : List UInt8) :
    readXdata (CreateXdata.v4 volServer blkSize ioTimeout).bytes behind =
      (some volServer, blkSize, ioTimeout) := by
  obtain ⟨server, size, timeout⟩ := gbXdata_fields name blk io 4 behind
  obtain ⟨_, magic, ver⟩ := magic_gen (.inr rfl)
  have length : 0 < (gbXdataBytes 4 volServer blkSize ioTimeout).length := by
    simp [gbXdataBytes, Buffer.leBytes_length]
  unfold readXdata CreateXdata.bytes
  dsimp only
  rw [gbXdata_magic (.inr rfl), if_pos ⟨length, magic⟩, ver, server, size, timeout]
  rfl

theorem readXdata_v3 (name : IsServerName volServer) (blk : blkSize < 2 ^ 64)
    (behind : List UInt8) :
    readXdata (CreateXdata.v3 volServer blkSize).bytes behind = (some volServer, blkSize, 0) := by
  obtain ⟨server, size, _⟩ := gbXdata_fields name blk (show 0 < 2 ^ 64 by decide) 3 behind
  obtain ⟨_, magic, ver⟩ := magic_gen (.inl rfl)
  have length : 0 < (gbXdataBytes 3 volServer blkSize 0).length := by
    simp [gbXdataBytes, Buffer.leBytes_length]
  unfold readXdata CreateXdata.bytes
  dsimp only
  rw [gbXdata_magic (.inl rfl), if_pos ⟨length, magic⟩, ver, server, size]
  rfl

/-- A plain name arrives unless it is empty or taken for something else. -/
theorem readXdata_v2 (name : IsServerName volServer) (behind : List UInt8) :
    readXdata (CreateXdata.v2 volServer).bytes behind =
      if volServer ≠ "" ∧
          gbXdataIsMagic (Buffer.readLE 0 8 (Buffer.ofText volServer ++ behind)) = false then
        (some volServer, 0, 0)
      else (none, 0, 0) := by
  have length := Buffer.ofText_length volServer
  unfold readXdata CreateXdata.bytes
  dsimp only
  by_cases empty : volServer = ""
  · subst empty
    rfl
  · have positive : 0 < (Buffer.ofText volServer).length := by
      rw [length]
      exact Nat.pos_of_ne_zero (fun zero => empty (String.length_eq_zero_iff.mp zero))
    have short : (Buffer.ofText volServer).length ≤ hostNameMax := by
      rw [length]
      exact Nat.le_of_lt name.short
    have text : Buffer.textAt 0 (Buffer.ofText volServer ++ [0]) = volServer := by
      have padding := Buffer.textAt_padded [] [] name.clean rfl
        (w := volServer.length + 1) (Nat.lt_succ_self _)
      have shown : Buffer.padded (volServer.length + 1) volServer =
          Buffer.ofText volServer ++ [0] := by
        simp [Buffer.padded, length]
      rwa [shown, List.nil_append, List.append_nil] at padding
    cases magic : gbXdataIsMagic (Buffer.readLE 0 8 (Buffer.ofText volServer ++ behind)) with
    | false =>
      rw [if_neg (by simp), if_pos ⟨positive, short⟩, text, if_pos ⟨empty, rfl⟩]
    | true =>
      obtain ⟨not3, not4⟩ := name_version name empty behind
      rw [if_pos ⟨positive, rfl⟩, if_neg (by simp)]
      split
      · rename_i ver
        exact absurd ver not4
      · rename_i ver
        exact absurd ver not3
      · rfl

end Wire

section Calls

variable {host : Addr} {obj : BlockCreate2} {behind : List UInt8}

theorem call_magic (magic : gbXdataIsMagic (Buffer.readLE 0 8 obj.xdata.buffer) = true) :
    glusterBlockCallCreate host obj behind =
      blockCreateV2 { obj with ipaddr := host } obj.xdata.bytes behind :=
  if_pos (.inl magic)

theorem gbXdata_sent {ver : Nat} (known : ver = 3 ∨ ver = 4) (volServer : String)
    (blkSize ioTimeout : Nat) :
    gbXdataIsMagic (Buffer.readLE 0 8 (gbXdataBytes ver volServer blkSize ioTimeout)) = true := by
  have magic : Buffer.readLE 0 8 (gbXdataBytes ver volServer blkSize ioTimeout ++ []) =
      gbXdataGenMagic ver := gbXdata_magic known []
  rw [List.append_nil] at magic
  rw [magic]
  exact (magic_gen known).2.1

theorem call_v4 {volServer : String} {blkSize ioTimeout : Nat} (name : IsServerName volServer)
    (blk : blkSize < 2 ^ 64) (io : ioTimeout < 2 ^ 64)
    (xdata : obj.xdata = .v4 volServer blkSize ioTimeout) :
    (glusterBlockCallCreate host obj behind).carries
      ⟨volServer, ioTimeout, obj.prioPath, obj.rbSize, blkSize⟩ := by
  rw [call_magic (xdata ▸ gbXdata_sent (.inr rfl) volServer blkSize ioTimeout), xdata]
  unfold blockCreateV2 CommonArgs.carries
  rw [readXdata_v4 name blk io]
  exact ⟨rfl, rfl, rfl, rfl⟩

theorem call_v3 {volServer : String} {blkSize : Nat} (name : IsServerName volServer)
    (blk : blkSize < 2 ^ 64) (xdata : obj.xdata = .v3 volServer blkSize) (ioTimeout : Nat) :
    (glusterBlockCallCreate host obj behind).carries
      ⟨volServer, ioTimeout, obj.prioPath, obj.rbSize, blkSize⟩ ↔ ioTimeout = 0 := by
  rw [call_magic (xdata ▸ gbXdata_sent (.inl rfl) volServer blkSize 0), xdata]
  unfold blockCreateV2 CommonArgs.carries
  rw [readXdata_v3 name blk]
  constructor
  · rintro ⟨_, io, _, _⟩
    exact io.symm
  · rintro rfl
    exact ⟨rfl, rfl, rfl, rfl⟩

/-- A plain name takes the new procedure when there is something else to carry, and
is read there. -/
def NameArrives (obj : BlockCreate2) (volServer : String) (behind : List UInt8) : Prop :=
  (obj.rbSize ≠ 0 ∨ obj.prioPath ≠ "") ∧ volServer ≠ "" ∧
    gbXdataIsMagic (Buffer.readLE 0 8 (Buffer.ofText volServer ++ behind)) = false

theorem call_v2 {volServer : String} (name : IsServerName volServer)
    (xdata : obj.xdata = .v2 volServer) (ioTimeout : Nat) :
    (glusterBlockCallCreate host obj behind).carries
      ⟨volServer, ioTimeout, obj.prioPath, obj.rbSize, 0⟩ ↔
        ioTimeout = 0 ∧ NameArrives obj volServer behind := by
  have plain : gbXdataIsMagic (Buffer.readLE 0 8 obj.xdata.buffer) = false := by
    rw [xdata]
    exact buffer_plain name
  unfold glusterBlockCallCreate NameArrives
  dsimp only
  rw [plain]
  by_cases more : obj.rbSize ≠ 0 ∨ obj.prioPath ≠ ""
  · rw [if_pos (.inr more), xdata]
    unfold blockCreateV2 CommonArgs.carries
    rw [readXdata_v2 name]
    by_cases read : volServer ≠ "" ∧
        gbXdataIsMagic (Buffer.readLE 0 8 (Buffer.ofText volServer ++ behind)) = false
    · rw [if_pos read]
      constructor
      · rintro ⟨_, io, _, _⟩
        exact ⟨io.symm, more, read⟩
      · rintro ⟨rfl, _⟩
        exact ⟨rfl, rfl, rfl, rfl⟩
    · rw [if_neg read]
      constructor
      · rintro ⟨absurd, _⟩
        cases absurd
      · rintro ⟨_, _, arrives⟩
        exact absurd arrives read
  · have nothing : ¬ (false = true ∨ obj.rbSize ≠ 0 ∨ obj.prioPath ≠ "") := by simpa using more
    rw [if_neg nothing]
    constructor
    · rintro ⟨absurd, _⟩
      cases absurd
    · rintro ⟨_, arrives, _⟩
      exact absurd arrives more

end Calls

section Senders

/-- The host list of the request and what its hosts answered. -/
def createArgs (blk : BlockCreateCli) (env : CreateEnv) : List CapArg :=
  capArgs (blockServerParse blk.blockHosts) env.caps

/-- Every create call of the request carries the object that was made behind the
gate. -/
theorem create_call {blk : BlockCreateCli} {env : CreateEnv} {file : Metafile} {addr : Addr}
    {obj : BlockCreate2} {exit : Int}
    (sent : Ev.call addr (.create obj) exit ∈ (blockCreateCli blk env file).evs) :
    ∃ resultCaps, createCapGate blk (createArgs blk env) = .ok resultCaps ∧
      obj = { createObj blk env resultCaps with ipaddr := addr } := by
  have about : ∀ {evs : List Ev}, Ev.call addr (.create obj) exit ∈ evs →
      Ev.call addr (.create obj) exit ∈ hostEvs addr evs :=
    fun he => List.mem_filter.mpr ⟨he, beq_self_eq_true addr⟩
  unfold blockCreateCli at sent
  dsimp only at sent
  split at sent
  · cases sent
  · split at sent
    · cases sent
    · cases sent
    · rename_i resultCaps gate _
      refine ⟨resultCaps, gate, ?_⟩
      split at sent
      · cases sent
      · unfold createBody at sent
        dsimp only at sent
        split at sent
        · have none := about sent
          rw [prepare_host] at none
          cases none
        · rcases List.mem_append.mp sent with start | audit
          · rcases List.mem_append.mp start with prep | workers
            · have none := about prep
              rw [prepare_host] at none
              cases none
            · obtain ⟨code, full⟩ := createEvs_seen (about workers)
              rcases mem_full full with ⟨s, _, line⟩ | call
              · cases line
              · cases call
                rfl
          · change _ ∈ (glusterBlockAuditRequest _ blk env.cleanUp).act.evs at audit
            rw [audit_evs] at audit
            rcases rollback_seen (about audit) with ⟨dobj, code, full⟩ | files
            · rcases mem_full full with ⟨s, _, line⟩ | call
              · cases line
              · cases call
            · exact absurd files deleteFiles_calls

/-- The timeout capability is recorded when the request needs it and a host lacks
it. -/
theorem gate_timeout {blk : BlockCreateCli} {env : CreateEnv} {resultCaps : Caps}
    (gate : createCapGate blk (createArgs blk env) = .ok resultCaps) :
    resultCaps .createIoTimeout = false ↔
      blk.ioTimeout = 0 ∨ ∀ a ∈ createArgs blk env, a.reports .createIoTimeout = true := by
  have recorded : resultCaps .createIoTimeout = true ↔ _ := gate_records gate .createIoTimeout
  rw [← Bool.not_eq_true, recorded]
  simp [lacks, glusterBlockBuildMinCaps, createArgs, imp_iff_not_or]

section Version

def CreateXdata.version : CreateXdata → Nat
  | .v4 _ _ _ => 4
  | .v3 _ _ => 3
  | .v2 _ => 2

/-- Every host reports what the version of the message needs. -/
def VersionFits (xdata : CreateXdata) (args : List CapArg) : Prop :=
  (xdata.version = 4 → ∀ a ∈ args, a.reports .createIoTimeout = true) ∧
    (xdata.version = 3 → ∀ a ∈ args, a.reports .createBlockSize = true)

/-- The fourth version goes to hosts without the timeout when the request has none,
and the third to hosts without block sizes when the gate lets them pass. -/
theorem message_version {blk : BlockCreateCli} {env : CreateEnv} {file : Metafile} {addr : Addr}
    {obj : BlockCreate2} {exit : Int}
    (sent : Ev.call addr (.create obj) exit ∈ (blockCreateCli blk env file).evs) :
    VersionFits obj.xdata (createArgs blk env) ↔
      (∀ a ∈ createArgs blk env, a.reports .createIoTimeout = true) ∨
        blk.ioTimeout ≠ 0 ∧ (blk.blkSize = 0 ∨
          ∀ a ∈ createArgs blk env, a.reports .createBlockSize = true) := by
  obtain ⟨resultCaps, gate, rfl⟩ := create_call sent
  have timeout := gate_timeout gate
  unfold createObj VersionFits
  dsimp only
  cases recorded : resultCaps .createIoTimeout with
  | false =>
    have fourth : (!false) = true := rfl
    rw [if_pos fourth]
    constructor
    · rintro ⟨reported, _⟩
      exact .inl (reported rfl)
    · intro either
      refine ⟨fun _ => ?_, fun other => (nomatch other)⟩
      rcases either with reported | ⟨needed, _⟩
      · exact reported
      · exact (timeout.mp recorded).resolve_left needed
  | true =>
    have older : ¬ (!true) = true := Bool.false_ne_true
    obtain ⟨needed, missing⟩ := not_or.mp (fun h => Bool.false_ne_true
      ((timeout.mpr h).symm.trans recorded))
    rw [if_neg older]
    by_cases size : blk.blkSize ≠ 0
    · rw [if_pos size]
      constructor
      · rintro ⟨_, reported⟩
        exact .inr ⟨needed, .inr (reported rfl)⟩
      · rintro (reported | ⟨_, none | reported⟩)
        · exact absurd reported missing
        · exact absurd none size
        · exact ⟨fun other => (nomatch other), fun _ => reported⟩
    · rw [if_neg size]
      constructor
      · intro _
        exact .inr ⟨needed, .inl (not_not.mp size)⟩
      · intro _
        exact ⟨fun other => (nomatch other), fun other => (nomatch other)⟩

theorem message_version_sample :
    VersionFits (createObj oneHost (createSampleEnv []) (fun _ => false)).xdata
        (createArgs oneHost (createSampleEnv [])) ↔
      (∀ a ∈ createArgs oneHost (createSampleEnv []), a.reports .createIoTimeout = true) ∨
        oneHost.ioTimeout ≠ 0 ∧ (oneHost.blkSize = 0 ∨
          ∀ a ∈ createArgs oneHost (createSampleEnv []), a.reports .createBlockSize = true) :=
  (message_version (show Ev.call "10.0.0.1" (.create
      { createObj oneHost (createSampleEnv []) (fun _ => false) with ipaddr := "10.0.0.1" }) 0 ∈
    (blockCreateCli oneHost (createSampleEnv []) none).evs by decide) :)

/-- A host that has all capabilities but the timeout. -/
def noTimeout : Nat → VersionCall :=
  fun _ => .replied 0 (GbCapability.all.map (fun i =>
    { cap := gbCapabilitiesLookup i, status := i != .createIoTimeout }))

theorem fourth_version_unasked :
    ∃ obj, Ev.call "10.0.0.1" (.create obj) 0 ∈
        (blockCreateCli oneHost { createSampleEnv [] with caps := noTimeout } none).evs ∧
      ¬ VersionFits obj.xdata (createArgs oneHost { createSampleEnv [] with caps := noTimeout }) := by
  refine ⟨{ createObj oneHost (createSampleEnv []) (fun _ => false) with ipaddr := "10.0.0.1" },
    by decide, fun fits => ?_⟩
  have reported := fits.1 rfl (glusterBlockCapabilitiesRemote "10.0.0.1" (noTimeout 0)) (by decide)
  exact absurd reported (by decide)

end Version

section Params

theorem create_params {blk : BlockCreateCli} {env : CreateEnv} {resultCaps : Caps}
    (gate : createCapGate blk (createArgs blk env) = .ok resultCaps)
    (name : IsServerName env.volServer) (size : blk.blkSize < 2 ^ 32)
    (timeout : blk.ioTimeout < 2 ^ 32) (host : Addr) (behind : List UInt8) :
    (glusterBlockCallCreate host (createObj blk env resultCaps) behind).carries
        ⟨env.volServer, blk.ioTimeout, createPrioPath env resultCaps, blk.rbSize, blk.blkSize⟩ ↔
      blk.ioTimeout = 0 ∨ ∀ a ∈ createArgs blk env, a.reports .createIoTimeout = true := by
  rw [← gate_timeout gate]
  have needed : resultCaps .createIoTimeout = true → blk.ioTimeout ≠ 0 := by
    intro recorded none
    exact Bool.false_ne_true (((gate_timeout gate).mpr (.inl none)).symm.trans recorded)
  let obj := createObj blk env resultCaps
  cases recorded : resultCaps .createIoTimeout with
  | false =>
    have xdata : obj.xdata = .v4 env.volServer blk.blkSize blk.ioTimeout := by
      simp [obj, createObj, recorded]
    exact iff_of_true (call_v4 name (by omega) (by omega) xdata) rfl
  | true =>
    have lost := needed recorded
    refine iff_of_false (fun kept => ?_) (fun absurd => (nomatch absurd))
    by_cases sized : blk.blkSize ≠ 0
    · have xdata : obj.xdata = .v3 env.volServer blk.blkSize := by
        simp [obj, createObj, recorded, sized]
      exact lost ((call_v3 name (by omega) xdata blk.ioTimeout).mp kept)
    · have none : blk.blkSize = 0 := not_not.mp sized
      have xdata : obj.xdata = .v2 env.volServer := by
        simp [obj, createObj, recorded, none]
      rw [none] at kept
      exact lost ((call_v2 name xdata blk.ioTimeout).mp kept).1

theorem replace_params {volServer : String} (name : IsServerName volServer) (blk : BlockReplaceCli)
    {info : MetaInfo} (size : info.blkSize < 2 ^ 64) (timeout : info.ioTimeout < 2 ^ 64)
    (host : Addr) (behind : List UInt8) :
    let obj := replaceCobj blk info volServer
    (glusterBlockCallCreate host obj behind).carries
        ⟨volServer, info.ioTimeout, obj.prioPath, info.rbSize, info.blkSize⟩ ↔
      info.ioTimeout ≠ 0 ∨ info.blkSize ≠ 0 ∨ NameArrives obj volServer behind := by
  intro obj
  by_cases timed : info.ioTimeout ≠ 0
  · have xdata : obj.xdata = .v4 volServer info.blkSize info.ioTimeout := if_pos timed
    exact iff_of_true (call_v4 name size timeout xdata) (.inl timed)
  · have untimed : info.ioTimeout = 0 := not_not.mp timed
    by_cases sized : info.blkSize ≠ 0
    · have xdata : obj.xdata = .v3 volServer info.blkSize := (if_neg timed).trans (if_pos sized)
      exact iff_of_true ((call_v3 name size xdata _).mpr untimed) (.inr (.inl sized))
    · have unsized : info.blkSize = 0 := not_not.mp sized
      have xdata : obj.xdata = .v2 volServer := (if_neg timed).trans (if_neg sized)
      rw [unsized]
      refine (call_v2 name xdata _).trans ?_
      simp [untimed]

/-- A node uses what the create sends unless it lost the timeout, and what the replace
sends unless a plain name did not arrive. -/
theorem params_kept {volServer : String} (name : IsServerName volServer) (host : Addr)
    (behind : List UInt8) :
    (∀ (blk : BlockCreateCli) (env : CreateEnv) (resultCaps : Caps), env.volServer = volServer →
      createCapGate blk (createArgs blk env) = .ok resultCaps → blk.blkSize < 2 ^ 32 →
        blk.ioTimeout < 2 ^ 32 →
          ((glusterBlockCallCreate host (createObj blk env resultCaps) behind).carries
              ⟨volServer, blk.ioTimeout, createPrioPath env resultCaps, blk.rbSize, blk.blkSize⟩ ↔
            blk.ioTimeout = 0 ∨ ∀ a ∈ createArgs blk env, a.reports .createIoTimeout = true)) ∧
      ∀ (blk : BlockReplaceCli) (info : MetaInfo), info.blkSize < 2 ^ 64 →
        info.ioTimeout < 2 ^ 64 →
          ((glusterBlockCallCreate host (replaceCobj blk info volServer) behind).carries
              ⟨volServer, info.ioTimeout, (replaceCobj blk info volServer).prioPath, info.rbSize,
                info.blkSize⟩ ↔
            info.ioTimeout ≠ 0 ∨ info.blkSize ≠ 0 ∨
              NameArrives (replaceCobj blk info volServer) volServer behind) := by
  constructor
  · rintro blk env resultCaps rfl gate size timeout
    exact create_params gate name size timeout host behind
  · intro blk info size timeout
    exact replace_params name blk size timeout host behind

theorem localhost_name : IsServerName "localhost" where
  short := by decide
  graphic := CText.forall_of_all (by decide)

theorem params_kept_sample :
    (glusterBlockCallCreate "10.0.0.1" (createObj oneHost (createSampleEnv []) (fun _ => false))
        []).carries ⟨"localhost", 0, "", 0, 0⟩ ↔
      oneHost.ioTimeout = 0 ∨
        ∀ a ∈ createArgs oneHost (createSampleEnv []), a.reports .createIoTimeout = true :=
  (params_kept localhost_name "10.0.0.1" []).1 oneHost (createSampleEnv []) (fun _ => false)
    rfl rfl (by decide) (by decide)

/-- Without a ring buffer and a priority path the new node is not told the server. -/
theorem plain_name_lost :
    let obj := replaceCobj replaceSample (replay (configuredLines 1 ["10.0.0.1"])) "gluster-1"
    ¬ (glusterBlockCallCreate "10.0.0.4" obj []).carries
      ⟨"gluster-1", 0, obj.prioPath, 0, 0⟩ := by
  intro obj kept
  have server : (glusterBlockCallCreate "10.0.0.4" obj []).volServer = none := by decide
  exact absurd (server.symm.trans kept.1) (by decide)

end Params

end Senders

end GlusterBlock
