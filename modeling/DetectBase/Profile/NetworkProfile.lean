import DetectBase.Foundations.Reads
import DetectBase.Grpc.Client
import DetectBase.Json.Text

/-!
# The settings of the network

`NetworkProfileParser` reads `NetworkSettings.json` twice: `CheckParsable` looks for what has to be
there, and answers with a message if it is not; `Parse` then reads all of it. The header promises
that it does not throw. It does, for the values are read by `value`, which throws when a member is
of another kind than its default; `DetectBase.NetworkProfileParser.reads_parse_iff` says for a
file that `CheckParsable` lets through which members those are.

A profile that is returned is fit for use (`DetectBase.NetworkProfileParser.wellFormed_parse`): the
addresses and ports that the other parts of the service ask for are there, and a part of gRPC that
is switched on has what it needs. `NetworkManager` makes its settings and its clients from it
(`DetectBase.NetworkProfile.WellFormed.initializeGrpcClients`).

The file does not change while it is read. What the library says about a text that is no JSON, and
the address of the network interface, are given.
-/

namespace DetectBase

open Json (Exception)

/-! ### The model -/

/-- `get<bool>()`. -/
def Json.getBool : Json → Except Exception Bool
  | .bool b => .ok b
  | _ => .error .typeError302

/-- The conversion of an `int` to `unsigned int`. -/
def toUnsigned (n : ℤ) : ℕ := (n % 2 ^ 32).toNat

/-- `get<unsigned int>()`: any number, or a boolean. -/
def Json.getUnsigned : Json → Except Exception ℕ
  | .int n => .ok (toUnsigned n)
  | .float x => .ok (Json.truncTo 0 (2 ^ 32 - 1) x).toNat
  | .bool b => .ok (if b then 1 else 0)
  | _ => .error .typeError302

/-- `GrpcPeerEndpoint`. -/
structure GrpcPeerEndpoint where
  /-- `name`. -/
  name : String
  /-- `ip`. -/
  ip : String
  /-- `port`. -/
  port : ℕ
  deriving DecidableEq

/-- **`NetworkProfile`**. -/
structure NetworkProfile where
  /-- `local_ip`. -/
  localIp : String
  /-- `mvas_ip`. -/
  mvasIp : String
  /-- `mvas_api_port`. -/
  mvasApiPort : ℕ
  /-- `mvas_sio_port`. -/
  mvasSioPort : ℕ
  /-- `grpc_client_enabled`. -/
  grpcClientEnabled : Bool
  /-- `grpc_peers`. -/
  grpcPeers : List GrpcPeerEndpoint
  /-- `grpc_server_enabled`. -/
  grpcServerEnabled : Bool
  /-- `grpc_server_bind_address`. -/
  grpcServerBindAddress : String
  /-- `grpc_server_port`. -/
  grpcServerPort : ℕ
  deriving DecidableEq

/-- What is at a path. -/
inductive SettingsFile where
  /-- No regular file. -/
  | missing : SettingsFile
  /-- A file that cannot be opened. -/
  | locked : SettingsFile
  /-- A file with a text. -/
  | text (s : String) : SettingsFile
  deriving DecidableEq

/-- `settings_ifs >> settings_json`. -/
def SettingsFile.load : SettingsFile → Option Json
  | .text s => parseStream s
  | _ => none

/-- **A profile that is fit for use.** -/
structure NetworkProfile.WellFormed (p : NetworkProfile) : Prop where
  /-- There is an address of the MVAS. -/
  mvasIp : p.mvasIp ≠ ""
  /-- There are its ports. -/
  ports : p.mvasApiPort ≠ 0 ∧ p.mvasSioPort ≠ 0
  /-- Each peer has an address, a port and a name. -/
  peers : ∀ peer ∈ p.grpcPeers, peer.ip ≠ "" ∧ peer.port ≠ 0 ∧ peer.name ≠ ""
  /-- The client is switched on if it has peers. -/
  client : p.grpcClientEnabled = true ↔ p.grpcPeers ≠ []
  /-- A server that is switched on has a port. -/
  server : p.grpcServerEnabled = true → p.grpcServerPort ≠ 0

namespace NetworkProfileParser

/-- `CheckParsable`, from the first `value` on. -/
def checkSettings (settings : Json) : Except Exception (Option String) := do
  let mvasIp ← settings.value Json.getString "MVAS_IP" ""
  if mvasIp = "" then
    return some "CheckParsable(), 'MVAS_IP' 키가 누락되었거나 값이 비어 있습니다."
  else
    let sioPort ← settings.value Json.getInt "SocketIO_Port" 0
    if toUnsigned sioPort = 0 then
      return some "CheckParsable(), 'SocketIO_Port' 키가 누락되었거나 값이 비어 있습니다."
    else
      let apiPort ← settings.value Json.getInt "REST_API_Port" 0
      if toUnsigned apiPort = 0 then
        return some "CheckParsable(), 'REST_API_Port' 키가 누락되었거나 값이 비어 있습니다."
      else return none

/-- **`CheckParsable`**: a message, or `nullopt`. `what` is what the exception of the library
says. -/
def checkParsable (what path : String) (file : SettingsFile) : Except Exception (Option String) :=
  match file with
  | .missing =>
    .ok (some ("CheckParsable(), NetworkSettings 파일이 존재하지 않거나 잘못된 경로입니다: " ++ path))
  | .locked => .ok (some ("CheckParsable(), NetworkSettings 파일을 열 수 없습니다: " ++ path))
  | .text s =>
    match parseStream s with
    | none => .ok (some ("CheckParsable(), JSON 파싱 오류: " ++ what))
    | some settings => checkSettings settings

/-- An element of `GRPC_Peers`. `none` is one that is skipped. -/
def readPeer (peer : Json) : Except Exception (Option GrpcPeerEndpoint) :=
  if peer.isObject then do
    let name ← peer.value Json.getString "name" ""
    let ip ← peer.value Json.getString "ip" ""
    let port ← peer.value Json.getUnsigned "port" 0
    if ip = "" ∨ port = 0 then return none
    else return some ⟨if name = "" then ip ++ ":" ++ toString port else name, ip, port⟩
  else return none

/-- The elements of `GRPC_Peers`, if it is an array. -/
def peerList (settings : Json) : List Json :=
  match settings.member? "GRPC_Peers" with
  | some (.arr peers) => peers
  | _ => []

/-- What is read in a branch only, and its default. -/
def readIf {α : Type} (enabled : Bool) (dflt : α) (read : Except Exception α) :
    Except Exception α :=
  if enabled then read else .ok dflt

/-- `Parse`, from the first `value` on. -/
def readProfile (physicalIp : String) (settings : Json) : Except Exception NetworkProfile := do
  let localIp ← settings.value Json.getString "LocalIP" ""
  let mvasIp ← settings.value Json.getString "MVAS_IP" ""
  let sioPort ← settings.value Json.getInt "SocketIO_Port" 0
  let apiPort ← settings.value Json.getInt "REST_API_Port" 0
  let clientEnabled ← settings.value Json.getBool "GRPC_Client_Enabled" false
  let peers ← readIf clientEnabled [] ((peerList settings).mapM readPeer)
  let serverEnabled ← settings.value Json.getBool "GRPC_Server_Enabled" false
  let address ← readIf serverEnabled "0.0.0.0"
    (settings.value Json.getString "GRPC_Server_BindAddress" "0.0.0.0")
  let port ← readIf serverEnabled 0 (settings.value Json.getUnsigned "GRPC_Server_Port" 0)
  return {
    localIp := if localIp = "" then physicalIp else localIp
    mvasIp
    mvasApiPort := toUnsigned apiPort
    mvasSioPort := toUnsigned sioPort
    -- a client without a peer is switched off, and so is a server without a port
    grpcClientEnabled := clientEnabled && !(peers.filterMap id).isEmpty
    grpcPeers := peers.filterMap id
    grpcServerEnabled := serverEnabled && port ≠ 0
    grpcServerBindAddress := address
    grpcServerPort := port }

/-- **`Parse`**. The file is checked once more, and then read once more. -/
def parse (what path physicalIp : String) (file : SettingsFile) :
    Except Exception (Option NetworkProfile) := do
  match ← checkParsable what path file with
  | some _ => return none
  | none =>
    match file.load with
    | some settings => return some (← readProfile physicalIp settings)
    | none => return none

/-! ### What is read -/

/-- **What has been read when a profile is returned.** -/
structure Read (physicalIp : String) (settings : Json) (p : NetworkProfile) where
  /-- The member `LocalIP`. -/
  localIp : String
  /-- The member `SocketIO_Port`. -/
  sioPort : ℤ
  /-- The member `REST_API_Port`. -/
  apiPort : ℤ
  /-- The member `GRPC_Client_Enabled`. -/
  clientEnabled : Bool
  /-- The elements of `GRPC_Peers`. -/
  peers : List (Option GrpcPeerEndpoint)
  /-- The member `GRPC_Server_Enabled`. -/
  serverEnabled : Bool
  localIp_eq : settings.value Json.getString "LocalIP" "" = .ok localIp
  mvasIp_eq : settings.value Json.getString "MVAS_IP" "" = .ok p.mvasIp
  sioPort_eq : settings.value Json.getInt "SocketIO_Port" 0 = .ok sioPort
  apiPort_eq : settings.value Json.getInt "REST_API_Port" 0 = .ok apiPort
  client_eq : settings.value Json.getBool "GRPC_Client_Enabled" false = .ok clientEnabled
  peers_eq : readIf clientEnabled [] ((peerList settings).mapM readPeer) = .ok peers
  server_eq : settings.value Json.getBool "GRPC_Server_Enabled" false = .ok serverEnabled
  address_eq : readIf serverEnabled "0.0.0.0"
    (settings.value Json.getString "GRPC_Server_BindAddress" "0.0.0.0") =
      .ok p.grpcServerBindAddress
  port_eq : readIf serverEnabled 0 (settings.value Json.getUnsigned "GRPC_Server_Port" 0) =
    .ok p.grpcServerPort
  profile_eq : p = {
    localIp := if localIp = "" then physicalIp else localIp
    mvasIp := p.mvasIp
    mvasApiPort := toUnsigned apiPort
    mvasSioPort := toUnsigned sioPort
    grpcClientEnabled := clientEnabled && !(peers.filterMap id).isEmpty
    grpcPeers := peers.filterMap id
    grpcServerEnabled := serverEnabled && p.grpcServerPort ≠ 0
    grpcServerBindAddress := p.grpcServerBindAddress
    grpcServerPort := p.grpcServerPort }

theorem readProfile_eq_ok_iff {physicalIp : String} {settings : Json} {p : NetworkProfile} :
    readProfile physicalIp settings = .ok p ↔ Nonempty (Read physicalIp settings p) := by
  constructor
  · intro h
    rw [readProfile] at h
    obtain ⟨localIp, hlocal, h⟩ := exists_of_bind_eq_ok h
    obtain ⟨mvasIp, hmvas, h⟩ := exists_of_bind_eq_ok h
    obtain ⟨sioPort, hsio, h⟩ := exists_of_bind_eq_ok h
    obtain ⟨apiPort, hapi, h⟩ := exists_of_bind_eq_ok h
    obtain ⟨clientEnabled, hclient, h⟩ := exists_of_bind_eq_ok h
    obtain ⟨peers, hpeers, h⟩ := exists_of_bind_eq_ok h
    obtain ⟨serverEnabled, hserver, h⟩ := exists_of_bind_eq_ok h
    obtain ⟨address, haddress, h⟩ := exists_of_bind_eq_ok h
    obtain ⟨port, hport, h⟩ := exists_of_bind_eq_ok h
    cases h
    exact ⟨⟨localIp, sioPort, apiPort, clientEnabled, peers, serverEnabled, hlocal, hmvas, hsio,
      hapi, hclient, hpeers, hserver, haddress, hport, rfl⟩⟩
  · rintro ⟨r⟩
    simp only [readProfile, r.localIp_eq, r.mvasIp_eq, r.sioPort_eq, r.apiPort_eq, r.client_eq,
      r.peers_eq, r.server_eq, r.address_eq, r.port_eq, bind, Except.bind]
    exact congrArg Except.ok r.profile_eq.symm

/-- What `CheckParsable` has found when it is content. -/
theorem checkSettings_eq_none {settings : Json} (h : checkSettings settings = .ok none) :
    ∃ mvasIp sioPort apiPort, settings.value Json.getString "MVAS_IP" "" = .ok mvasIp ∧
      mvasIp ≠ "" ∧ settings.value Json.getInt "SocketIO_Port" 0 = .ok sioPort ∧
      toUnsigned sioPort ≠ 0 ∧ settings.value Json.getInt "REST_API_Port" 0 = .ok apiPort ∧
      toUnsigned apiPort ≠ 0 := by
  rw [checkSettings] at h
  obtain ⟨mvasIp, hmvas, h⟩ := exists_of_bind_eq_ok h
  split_ifs at h with hip
  · cases h
  obtain ⟨sioPort, hsio, h⟩ := exists_of_bind_eq_ok h
  split_ifs at h with hsioPort
  · cases h
  obtain ⟨apiPort, hapi, h⟩ := exists_of_bind_eq_ok h
  split_ifs at h with hapiPort
  · cases h
  exact ⟨mvasIp, sioPort, apiPort, hmvas, hip, hsio, hsioPort, hapi, hapiPort⟩

/-- A file that `CheckParsable` lets through has a JSON text. -/
theorem exists_load_of_checked {what path : String} {file : SettingsFile}
    (h : checkParsable what path file = .ok none) :
    ∃ settings, file.load = some settings ∧ checkSettings settings = .ok none := by
  rcases file with _ | _ | s
  · cases h
  · cases h
  · rw [checkParsable] at h
    rw [SettingsFile.load]
    rcases hparse : parseStream s with _ | settings
    · rw [hparse] at h
      cases h
    · rw [hparse] at h
      exact ⟨settings, rfl, h⟩

/-- **What `Parse` does with a file that `CheckParsable` lets through.** -/
theorem parse_of_checked {what path : String} (physicalIp : String) {file : SettingsFile}
    {settings : Json} (hcheck : checkParsable what path file = .ok none)
    (hload : file.load = some settings) :
    parse what path physicalIp file = (readProfile physicalIp settings).map some := by
  simp only [parse, hcheck, hload, bind, Except.bind]
  rcases readProfile physicalIp settings with e | p <;> rfl

/-! ### What is returned is fit for use -/

/-- A peer that is not skipped. -/
theorem readPeer_eq_some {peer : Json} {endpoint : GrpcPeerEndpoint}
    (h : readPeer peer = .ok (some endpoint)) :
    endpoint.ip ≠ "" ∧ endpoint.port ≠ 0 ∧ endpoint.name ≠ "" := by
  rw [readPeer] at h
  split_ifs at h
  · obtain ⟨name, -, h⟩ := exists_of_bind_eq_ok h
    obtain ⟨ip, -, h⟩ := exists_of_bind_eq_ok h
    obtain ⟨port, -, h⟩ := exists_of_bind_eq_ok h
    by_cases hskip : ip = "" ∨ port = 0
    · rw [if_pos hskip] at h
      cases h
    · rw [if_neg hskip] at h
      cases h
      rw [not_or] at hskip
      refine ⟨hskip.1, hskip.2, ?_⟩
      by_cases hname : name = ""
      · rw [if_pos hname]
        intro hempty
        have hlist := congrArg String.toList hempty
        simp at hlist
      · rwa [if_neg hname]
  · cases h

/-- What a reading of a list contains has been read from an element of it. -/
theorem exists_of_mem_mapM {α β ε : Type} {f : α → Except ε β} {l : List α} {bs : List β}
    (h : l.mapM f = .ok bs) : ∀ b ∈ bs, ∃ a ∈ l, f a = .ok b := by
  induction l generalizing bs with
  | nil =>
    cases h
    exact fun b hb => absurd hb List.not_mem_nil
  | cons a l ih =>
    rw [List.mapM_cons] at h
    obtain ⟨b, hb, h⟩ := exists_of_bind_eq_ok h
    obtain ⟨bs', hbs', h⟩ := exists_of_bind_eq_ok h
    cases h
    intro x hx
    rcases List.mem_cons.mp hx with rfl | hx
    · exact ⟨a, List.mem_cons_self, hb⟩
    · obtain ⟨a', ha', hfa'⟩ := ih hbs' x hx
      exact ⟨a', List.mem_cons_of_mem _ ha', hfa'⟩

theorem wellFormed_readProfile {physicalIp : String} {settings : Json} {p : NetworkProfile}
    (hcheck : checkSettings settings = .ok none) (hread : readProfile physicalIp settings = .ok p) :
    p.WellFormed := by
  obtain ⟨r⟩ := readProfile_eq_ok_iff.mp hread
  obtain ⟨mvasIp, sioPort, apiPort, hmvas, hip, hsio, hsioPort, hapi, hapiPort⟩ :=
    checkSettings_eq_none hcheck
  have hmvasIp : p.mvasIp = mvasIp := Except.ok.inj (r.mvasIp_eq.symm.trans hmvas)
  have hsioEq : r.sioPort = sioPort := Except.ok.inj (r.sioPort_eq.symm.trans hsio)
  have hapiEq : r.apiPort = apiPort := Except.ok.inj (r.apiPort_eq.symm.trans hapi)
  have hpeers := r.peers_eq
  rw [r.profile_eq]
  refine ⟨hmvasIp ▸ hip, ⟨hapiEq ▸ hapiPort, hsioEq ▸ hsioPort⟩, fun peer hpeer => ?_, ?_,
    fun hserver => ?_⟩
  · obtain ⟨endpoint, hmem, hendpoint⟩ := List.mem_filterMap.mp hpeer
    obtain rfl : endpoint = some peer := hendpoint
    rw [readIf] at hpeers
    split_ifs at hpeers
    · obtain ⟨js, -, hjs⟩ := exists_of_mem_mapM hpeers _ hmem
      exact readPeer_eq_some hjs
    · rw [← Except.ok.inj hpeers] at hmem
      cases hmem
  · rcases henabled : r.clientEnabled
    · rw [henabled] at hpeers
      rw [← Except.ok.inj hpeers]
      simp
    · simp
  · simp only [Bool.and_eq_true, decide_eq_true_eq] at hserver
    exact hserver.2

/-- **A profile that `Parse` returns is fit for use.** -/
theorem wellFormed_parse {what path physicalIp : String} {file : SettingsFile} {p : NetworkProfile}
    (h : parse what path physicalIp file = .ok (some p)) : p.WellFormed := by
  rcases hcheck : checkParsable what path file with e | msg
  · rw [parse, hcheck] at h
    cases h
  · rcases msg with _ | msg
    · obtain ⟨settings, hload, hsettings⟩ := exists_load_of_checked hcheck
      rw [parse_of_checked physicalIp hcheck hload] at h
      rcases hread : readProfile physicalIp settings with e | q
      · rw [hread] at h
        cases h
      · rw [hread] at h
        cases h
        exact wellFormed_readProfile hsettings hread
    · rw [parse, hcheck] at h
      cases h

/-! ### When `Parse` throws -/

/-- The kinds of values that are asked for. -/
inductive Kind where
  /-- A string. -/
  | text : Kind
  /-- A boolean. -/
  | flag : Kind
  /-- A number, or a boolean. -/
  | number : Kind

/-- The value is of the kind. -/
def Kind.fits : Kind → Json → Bool
  | text, .str _ => true
  | flag, .bool _ => true
  | number, .int _ | number, .float _ | number, .bool _ => true
  | _, _ => false

/-- The member is missing, or of the kind. -/
def Fits (j : Json) (key : String) (kind : Kind) : Prop :=
  ∀ v, j.member? key = some v → kind.fits v = true

theorem reads_getString_iff (j : Json) : Reads j.getString ↔ Kind.text.fits j = true := by
  rcases j with _ | _ | _ | _ | _ | _ | _ <;> simp [Json.getString, Kind.fits]

theorem reads_getBool_iff (j : Json) : Reads j.getBool ↔ Kind.flag.fits j = true := by
  rcases j with _ | _ | _ | _ | _ | _ | _ <;> simp [Json.getBool, Kind.fits]

theorem reads_getUnsigned_iff (j : Json) : Reads j.getUnsigned ↔ Kind.number.fits j = true := by
  rcases j with _ | _ | _ | _ | _ | _ | _ <;> simp [Json.getUnsigned, Kind.fits]

/-- `value` reads a member that fits. -/
theorem reads_value_iff {α : Type} {get : Json → Except Exception α} {kind : Kind}
    (hget : ∀ v, Reads (get v) ↔ kind.fits v = true) {j : Json} (hobject : j.isObject = true)
    (key : String) (dflt : α) : Reads (j.value get key dflt) ↔ Fits j key kind := by
  rcases j with _ | _ | _ | _ | _ | _ | kvs
  case obj =>
    rw [Json.value, Fits, Json.member?]
    rcases kvs.lookup key with _ | v
    · simp
    · simp [hget]
  all_goals cases hobject

/-- What `value` reads off a flag. -/
theorem value_getBool {j : Json} {key : String} {b : Bool}
    (h : j.value Json.getBool key false = .ok b) :
    b = true ↔ j.member? key = some (.bool true) := by
  rcases j with _ | _ | _ | _ | _ | _ | kvs
  case obj =>
    rw [Json.value] at h
    rw [Json.member?]
    rcases hlookup : kvs.lookup key with _ | v
    · rw [hlookup] at h
      cases h
      simp
    · rw [hlookup] at h
      rcases v with _ | _ | _ | _ | _ | _ | _ <;> cases h
      simp
  all_goals cases h

/-- The members of a peer are of their kinds. -/
structure PeerFits (peer : Json) : Prop where
  /-- `name`. -/
  name : Fits peer "name" .text
  /-- `ip`. -/
  ip : Fits peer "ip" .text
  /-- `port`. -/
  port : Fits peer "port" .number

theorem reads_readPeer_iff (peer : Json) :
    Reads (readPeer peer) ↔ (peer.isObject = true → PeerFits peer) := by
  rw [readPeer]
  split_ifs with hobject
  · have hlast : ∀ (name ip : String) (port : ℕ), Reads (if ip = "" ∨ port = 0 then
        (pure none : Except Exception (Option GrpcPeerEndpoint)) else pure (some
          ⟨if name = "" then ip ++ ":" ++ toString port else name, ip, port⟩)) ↔ True := by
      intro name ip port
      split_ifs <;> simp
    rw [reads_bind_iff fun name => reads_bind_iff fun ip => reads_bind_iff fun port =>
        hlast name ip port, reads_value_iff reads_getString_iff hobject,
      reads_value_iff reads_getString_iff hobject, reads_value_iff reads_getUnsigned_iff hobject]
    exact ⟨fun h _ => ⟨h.1, h.2.1, h.2.2.1⟩, fun h =>
      ⟨(h hobject).name, (h hobject).ip, (h hobject).port, trivial⟩⟩
  · exact ⟨fun _ h => absurd h hobject, fun _ => reads_pure _⟩

/-- **The members that `CheckParsable` does not look at are of their kinds**, as far as they are
read. -/
structure OptionalFits (settings : Json) : Prop where
  /-- `LocalIP`. -/
  localIp : Fits settings "LocalIP" .text
  /-- `GRPC_Client_Enabled`. -/
  client : Fits settings "GRPC_Client_Enabled" .flag
  /-- `GRPC_Peers`, if the client is switched on. -/
  peers : settings.member? "GRPC_Client_Enabled" = some (.bool true) →
    ∀ peer ∈ peerList settings, peer.isObject = true → PeerFits peer
  /-- `GRPC_Server_Enabled`. -/
  server : Fits settings "GRPC_Server_Enabled" .flag
  /-- `GRPC_Server_BindAddress` and `GRPC_Server_Port`, if the server is switched on. -/
  address : settings.member? "GRPC_Server_Enabled" = some (.bool true) →
    Fits settings "GRPC_Server_BindAddress" .text ∧ Fits settings "GRPC_Server_Port" .number

theorem reads_readIf_iff {α : Type} {enabled : Bool} {dflt : α} {read : Except Exception α} :
    Reads (readIf enabled dflt read) ↔ (enabled = true → Reads read) := by
  rw [readIf]
  rcases enabled <;> simp

theorem isObject_of_checked {settings : Json} (h : checkSettings settings = .ok none) :
    settings.isObject = true := by
  obtain ⟨mvasIp, -, -, hmvas, -⟩ := checkSettings_eq_none h
  rcases settings with _ | _ | _ | _ | _ | _ | _
  case obj => rfl
  all_goals cases hmvas

theorem reads_readProfile_iff {physicalIp : String} {settings : Json}
    (h : checkSettings settings = .ok none) :
    Reads (readProfile physicalIp settings) ↔ OptionalFits settings := by
  have hobject := isObject_of_checked h
  have hreads : ∀ {b : Bool} {key : String}, settings.value Json.getBool key false = .ok b →
      Fits settings key .flag :=
    fun hb => (reads_value_iff reads_getBool_iff hobject _ _).mp ⟨_, hb⟩
  constructor
  · rintro ⟨p, hp⟩
    obtain ⟨r⟩ := readProfile_eq_ok_iff.mp hp
    have hserver := value_getBool r.server_eq
    refine ⟨(reads_value_iff reads_getString_iff hobject _ _).mp ⟨_, r.localIp_eq⟩,
      hreads r.client_eq, fun hclient => ?_, hreads r.server_eq, fun henabled => ?_⟩
    · have hpeers := reads_readIf_iff.mp ⟨_, r.peers_eq⟩ ((value_getBool r.client_eq).mpr hclient)
      intro peer hpeer
      exact (reads_readPeer_iff peer).mp ((reads_mapM_iff _).mp hpeers peer hpeer)
    · have haddress := reads_readIf_iff.mp ⟨_, r.address_eq⟩ (hserver.mpr henabled)
      have hport := reads_readIf_iff.mp ⟨_, r.port_eq⟩ (hserver.mpr henabled)
      exact ⟨(reads_value_iff reads_getString_iff hobject _ _).mp haddress,
        (reads_value_iff reads_getUnsigned_iff hobject _ _).mp hport⟩
  · intro hfits
    obtain ⟨mvasIp, sioPort, apiPort, hmvas, -, hsio, -, hapi, -⟩ := checkSettings_eq_none h
    obtain ⟨localIp, hlocal⟩ :=
      (reads_value_iff reads_getString_iff hobject "LocalIP" "").mpr hfits.localIp
    obtain ⟨client, hclient⟩ :=
      (reads_value_iff reads_getBool_iff hobject "GRPC_Client_Enabled" false).mpr hfits.client
    obtain ⟨server, hserver⟩ :=
      (reads_value_iff reads_getBool_iff hobject "GRPC_Server_Enabled" false).mpr hfits.server
    obtain ⟨peers, hpeers⟩ : Reads (readIf client [] ((peerList settings).mapM readPeer)) := by
      refine reads_readIf_iff.mpr fun henabled => (reads_mapM_iff _).mpr fun peer hpeer => ?_
      exact (reads_readPeer_iff peer).mpr
        (hfits.peers ((value_getBool hclient).mp henabled) peer hpeer)
    obtain ⟨address, haddress⟩ : Reads (readIf server "0.0.0.0"
        (settings.value Json.getString "GRPC_Server_BindAddress" "0.0.0.0")) :=
      reads_readIf_iff.mpr fun henabled => (reads_value_iff reads_getString_iff hobject _ _).mpr
        (hfits.address ((value_getBool hserver).mp henabled)).1
    obtain ⟨port, hport⟩ : Reads (readIf server 0
        (settings.value Json.getUnsigned "GRPC_Server_Port" 0)) :=
      reads_readIf_iff.mpr fun henabled => (reads_value_iff reads_getUnsigned_iff hobject _ _).mpr
        (hfits.address ((value_getBool hserver).mp henabled)).2
    refine ⟨⟨if localIp = "" then physicalIp else localIp, mvasIp, toUnsigned apiPort,
      toUnsigned sioPort, client && !(peers.filterMap id).isEmpty, peers.filterMap id,
      server && port ≠ 0, address, port⟩, readProfile_eq_ok_iff.mpr ?_⟩
    exact ⟨⟨localIp, sioPort, apiPort, client, peers, server, hlocal, hmvas, hsio, hapi, hclient,
      hpeers, hserver, haddress, hport, rfl⟩⟩

/-- **When `Parse` throws**: it returns a profile of a file that `CheckParsable` lets through if
the optional members are of their kinds, and throws otherwise. It never returns `nullopt`. -/
theorem reads_parse_iff {what path physicalIp : String} {file : SettingsFile}
    (hcheck : checkParsable what path file = .ok none) :
    (Reads (parse what path physicalIp file) ↔
      ∃ settings, file.load = some settings ∧ OptionalFits settings) ∧
    parse what path physicalIp file ≠ .ok none := by
  obtain ⟨settings, hload, hsettings⟩ := exists_load_of_checked hcheck
  rw [parse_of_checked physicalIp hcheck hload]
  refine ⟨?_, ?_⟩
  · have hmap : Reads ((readProfile physicalIp settings).map some) ↔
        Reads (readProfile physicalIp settings) := by
      rcases readProfile physicalIp settings with e | p
      · exact ⟨fun h => absurd h (not_reads_error e), fun h => absurd h (not_reads_error e)⟩
      · exact ⟨fun _ => reads_ok p, fun _ => reads_ok (some p)⟩
    rw [hmap, reads_readProfile_iff hsettings]
    constructor
    · exact fun hfits => ⟨settings, hload, hfits⟩
    · rintro ⟨settings', hload', hfits⟩
      rw [hload] at hload'
      rwa [Option.some.inj hload']
  · rcases readProfile physicalIp settings with e | p <;> exact fun hc => by cases hc

/-- A settings file with two peers, of which one has no port. -/
def sampleFile : SettingsFile :=
  .text "\x7b\"MVAS_IP\": \"a\", \"SocketIO_Port\": 1, \"REST_API_Port\": 2,
    \"GRPC_Client_Enabled\": true,
    \"GRPC_Peers\": [\x7b\"ip\": \"b\", \"port\": 3\x7d, 7, \x7b\"ip\": \"c\"\x7d]\x7d"

/-- What is read of it. -/
def sampleProfile : NetworkProfile :=
  ⟨"d", "a", 2, 1, true, [⟨"b:3", "b", 3⟩], false, "0.0.0.0", 0⟩

theorem parse_sampleFile : parse "" "" "d" sampleFile = .ok (some sampleProfile) := by
  decide +kernel

theorem reads_parse_iff_sampleFile : checkParsable "" "" sampleFile = .ok none ∧
    ∃ settings, sampleFile.load = some settings ∧ OptionalFits settings := by
  have hcheck : checkParsable "" "" sampleFile = .ok none := by decide +kernel
  exact ⟨hcheck, (reads_parse_iff hcheck).1.mp ⟨_, parse_sampleFile⟩⟩

end NetworkProfileParser

/-! ### The network manager -/

/-- `ApiSetting`. -/
structure ApiSetting where
  /-- `api_service_ip`. -/
  apiServiceIp : String
  /-- `api_service_port`. -/
  apiServicePort : ℤ
  /-- `my_local_ip`. -/
  myLocalIp : String
  deriving DecidableEq

/-- `SioSetting`. -/
structure SioSetting where
  /-- `sio_service_ip`. -/
  sioServiceIp : String
  /-- `sio_service_port`. -/
  sioServicePort : ℤ
  /-- `my_server_id`. -/
  myServerId : ℤ
  /-- `my_local_ip`. -/
  myLocalIp : String
  /-- `sio_root_namespace`. -/
  sioRootNamespace : String
  /-- `sio_conn_source`. -/
  sioConnSource : String
  /-- `sio_conn_user_type`. -/
  sioConnUserType : String
  /-- `sio_conn_service_type`. -/
  sioConnServiceType : String
  /-- `sio_conn_auth_token`. -/
  sioConnAuthToken : String
  deriving DecidableEq

namespace NetworkManager

/-- The conversion of an `unsigned int` to `int`. -/
def toInt (n : ℕ) : ℤ := (n : ℤ).bmod (2 ^ 32)

/-- **`BuildAPISetting`**. -/
def buildAPISetting (p : NetworkProfile) : Option ApiSetting :=
  if p.mvasIp = "" then none
  else if p.localIp = "" then none
  else if p.mvasApiPort = 0 then none
  else some ⟨p.mvasIp, toInt p.mvasApiPort, p.localIp⟩

/-- **`BuildSocketIOSetting`**, with the variable `MGEN_SIO_AUTH_TOKEN` of the environment. -/
def buildSocketIOSetting (p : NetworkProfile) (myServiceId : ℤ) (token : Option String) :
    Option SioSetting :=
  if p.mvasIp = "" then none
  else if p.localIp = "" then none
  else if p.mvasSioPort = 0 then none
  else some ⟨p.mvasIp, toInt p.mvasSioPort, myServiceId, p.localIp, "/", "App", "Server",
    "DetectBase", token.getD "detectbase-token"⟩

variable {ρ : Type}

/-- A client after `Start`. -/
def startedClient (now : ℕ) : Grpc.EventClient String ρ :=
  { Grpc.EventClient.new now with running := true, thread := .head }

theorem step_callStart_new (now : ℕ) :
    (Grpc.EventClient.new now : Grpc.EventClient String ρ).step .callStart =
      some (startedClient now) := rfl

/-- **`InitializeGrpcClients`**. `Start` never fails. -/
def initializeGrpcClients (p : NetworkProfile) (now : ℕ)
    (clients : List (Grpc.EventClient String ρ)) : List (Grpc.EventClient String ρ) :=
  if !clients.isEmpty then clients
  else if !p.grpcClientEnabled then clients
  else p.grpcPeers.map fun _ => startedClient now

/-- `IsGrpcClientEnabled`. -/
def isGrpcClientEnabled (clients : List (Grpc.EventClient String ρ)) : Bool := !clients.isEmpty

end NetworkManager

namespace NetworkProfile.WellFormed

open NetworkManager

variable {ρ : Type} {p : NetworkProfile}

theorem buildAPISetting_isSome (h : p.WellFormed) :
    (buildAPISetting p).isSome = true ↔ p.localIp ≠ "" := by
  rw [buildAPISetting, if_neg h.mvasIp, if_neg h.ports.1]
  split_ifs with hlocal <;> simp [hlocal]

theorem buildSocketIOSetting_isSome (h : p.WellFormed) (myServiceId : ℤ) (token : Option String) :
    (buildSocketIOSetting p myServiceId token).isSome = true ↔ p.localIp ≠ "" := by
  rw [buildSocketIOSetting, if_neg h.mvasIp, if_neg h.ports.2]
  split_ifs with hlocal <;> simp [hlocal]

/-- **One client for each peer.** -/
theorem length_initializeGrpcClients (h : p.WellFormed) (now : ℕ) :
    (initializeGrpcClients p now ([] : List (Grpc.EventClient String ρ))).length =
      p.grpcPeers.length := by
  rw [initializeGrpcClients, if_neg (by simp)]
  rcases henabled : p.grpcClientEnabled
  · have hpeers : p.grpcPeers = [] := by
      by_contra hne
      rw [h.client.mpr hne] at henabled
      cases henabled
    rw [hpeers]
    rfl
  · rw [if_neg (by simp), List.length_map]

theorem isGrpcClientEnabled_initializeGrpcClients (h : p.WellFormed) (now : ℕ) :
    isGrpcClientEnabled (initializeGrpcClients p now ([] : List (Grpc.EventClient String ρ))) =
      p.grpcClientEnabled := by
  have hlength := h.length_initializeGrpcClients (ρ := ρ) now
  rw [Bool.eq_iff_iff, h.client, isGrpcClientEnabled, Bool.not_eq_true', ← Bool.not_eq_true,
    List.isEmpty_iff, ← List.length_eq_zero_iff, hlength, List.length_eq_zero_iff]

end NetworkProfile.WellFormed

/-- **What the network manager makes of a profile that has been read**: it is fit for use, and makes
both settings unless there is no address of its own, and a client for each peer, so that an event
for all peers is as many calls. -/
theorem networkManager_of_parse {what path physicalIp : String} {file : SettingsFile}
    {p : NetworkProfile}
    (h : NetworkProfileParser.parse what path physicalIp file = .ok (some p)) {ρ : Type}
    (myServiceId : ℤ) (token : Option String) (now : ℕ) (payload : String)
    (draws : ℕ → UUID.Draws) :
    p.WellFormed ∧ ((NetworkManager.buildAPISetting p).isSome = true ↔ p.localIp ≠ "") ∧
    ((NetworkManager.buildSocketIOSetting p myServiceId token).isSome = true ↔ p.localIp ≠ "") ∧
    NetworkManager.isGrpcClientEnabled (ρ := ρ)
      (NetworkManager.initializeGrpcClients p now []) = p.grpcClientEnabled ∧
    (Grpc.broadcast (ρ := ρ) payload draws
      ((NetworkManager.initializeGrpcClients p now []).map some)).1 = p.grpcPeers.length := by
  have hp := NetworkProfileParser.wellFormed_parse h
  refine ⟨hp, hp.buildAPISetting_isSome, hp.buildSocketIOSetting_isSome myServiceId token,
    hp.isGrpcClientEnabled_initializeGrpcClients now, ?_⟩
  rw [Grpc.sent_broadcast payload draws, List.countP_map, ←
    hp.length_initializeGrpcClients (ρ := ρ) now]
  exact List.countP_eq_length.mpr fun _ _ => rfl

theorem networkManager_of_parse_sampleFile :
    (NetworkManager.buildAPISetting NetworkProfileParser.sampleProfile).isSome = true ∧
    (Grpc.broadcast (ρ := ℕ) "e" (fun _ => ⟨0, 0, 0, 0, 0, 0⟩)
      ((NetworkManager.initializeGrpcClients NetworkProfileParser.sampleProfile 5 []).map
        some)).1 = 1 := by
  obtain ⟨-, hapi, -, -, hsent⟩ := networkManager_of_parse (ρ := ℕ)
    NetworkProfileParser.parse_sampleFile 7 none 5 "e" fun _ => ⟨0, 0, 0, 0, 0, 0⟩
  exact ⟨hapi.mpr (by decide), hsent⟩

end DetectBase
