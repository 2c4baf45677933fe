import Dntpd.ServerConfigFile
import Dntpd.Spec.ConfigLines

/-!
# The servers of the file

A line is read with its newline, and what stands behind the colon is the port as it is.  So every
port in `g_servers` has the newline in it (`PortsEnded`), a line without a colon is no server, and
`load_server_config` yields the servers of the file only if it has none (`loadsServers_iff`).
-/

namespace Dntpd

open Proc

/-! ### Files -/

/-- The end of a line. -/
inductive LineEnd where
  | lf
  | crlf
  deriving DecidableEq

/-- What stands in front of the newline. -/
def LineEnd.text : LineEnd → List Char
  | lf => []
  | crlf => ['\r']

/-- The keys of the broadcast settings. -/
def broadcastKeywords : List CString :=
  ["enable_broadcast".toList, "broadcast_addr".toList, "broadcast_interval".toList]

/-- A server, and its port if the line names one. -/
structure ServerLine where
  host : List Char
  port : Option (List Char)
  host_ne : host ≠ []
  host_plain : ∀ c ∈ host, c ≠ ':' ∧ c ≠ '\n' ∧ c ≠ '\r' ∧ c ≠ '\x00'
  host_first : host.head? ≠ some '#'
  host_length : host.length ≤ 120
  host_keyword : host ∉ broadcastKeywords
  port_digits : ∀ p ∈ port, 1 ≤ p.length ∧ p.length ≤ 5 ∧ ∀ c ∈ p, c.isDigit = true

namespace ServerLine

/-- `host` or `host:port` -/
def text (l : ServerLine) : List Char :=
  match l.port with
  | none => l.host
  | some port => l.host ++ ':' :: port

/-- The host and the port, 123 by default. -/
def address (l : ServerLine) : CString × CString := (l.host, l.port.getD "123".toList)

end ServerLine

/-- A line of the file, without its end. -/
inductive LineBody where
  | comment (text : List Char) (hline : '\n' ∉ text) (hlength : text.length < 254)
  | empty
  | server (l : ServerLine)

namespace LineBody

def text : LineBody → List Char
  | comment text _ _ => '#' :: text
  | empty => []
  | server l => l.text

def server? : LineBody → Option ServerLine
  | server l => some l
  | _ => none

end LineBody

structure ConfigLine where
  body : LineBody
  ending : LineEnd

/-- The line without its newline. -/
def ConfigLine.text (l : ConfigLine) : List Char := l.body.text ++ l.ending.text

def confText (conf : List ConfigLine) : List Char := conf.flatMap fun l => l.text ++ ['\n']

theorem confText_cons (l : ConfigLine) (conf : List ConfigLine) :
    confText (l :: conf) = l.text ++ '\n' :: confText conf := by
  unfold confText
  rw [List.flatMap_cons, List.append_assoc, List.singleton_append]

/-- The servers of the file, in order. -/
def confServers (conf : List ConfigLine) : List ServerLine :=
  conf.filterMap fun l => l.body.server?

/-! ### One turn of the loop -/

/-- Every port in `g_servers` has a newline in it. -/
def PortsEnded (s : ServerState) : Prop := ∀ c ∈ s.servers, '\n' ∈ c.port

/-- What the broadcast settings leave as it is. -/
def serverLists (s : ServerState) : List ServerConfig × List PeerState :=
  (s.servers, s.daemon.peerPool)

theorem strtolInt_frame (s : CString) : Frame serverLists (fun _ => True) (strtolInt s) := by
  unfold strtolInt
  exact Frame.bind (Frame.update fun _ => rfl) fun _ => Frame.pure _

theorem setCli_frame (set : CliConfig → CliConfig) :
    Frame serverLists (fun _ => True) (setCli set) :=
  Frame.update fun _ => rfl

theorem enableBroadcastLine_frame (line : CString) :
    Frame serverLists (fun _ => True) (enableBroadcastLine line) := by
  unfold enableBroadcastLine
  split
  · exact Frame.pure _
  · exact (strtolInt_frame _).bind fun _ => Frame.ite (setCli_frame _) (Frame.pure _)

theorem broadcastAddrLine_frame (strndup : Bool) (line : CString) :
    Frame serverLists (fun _ => True) (broadcastAddrLine strndup line) := by
  unfold broadcastAddrLine
  split
  · exact Frame.pure _
  · exact Frame.ite (setCli_frame _) (Frame.pure _)

theorem broadcastIntervalLine_frame (line : CString) :
    Frame serverLists (fun _ => True) (broadcastIntervalLine line) := by
  unfold broadcastIntervalLine
  split
  · exact Frame.pure _
  · exact (strtolInt_frame _).bind fun _ => Frame.ite (setCli_frame _) (Frame.pure _)

theorem portsEnded_of_lists (s s' : ServerState) (h : serverLists s' = serverLists s)
    (hs : PortsEnded s) : PortsEnded s' := by
  unfold PortsEnded
  rwa [(Prod.mk.inj h).1]

/-- A server line adds its port as it is, or else no port. -/
theorem serverLine_preserves (allocs : LineAllocs) {line : CString}
    (hline : ∀ ip port, strchr line ':' = some (ip, port) → '\n' ∈ port) :
    Preserves PortsEnded (serverLine allocs line) := by
  have hfree : Preserves PortsEnded freeServers := fun s _ c hc => absurd hc List.not_mem_nil
  unfold serverLine
  split
  · exact Preserves.pure _
  · rename_i ip port hsplit
    refine Preserves.ite (Preserves.pure _) (Preserves.ite (Preserves.pure _)
      (Preserves.ite (Preserves.pure _) (Preserves.ite hfree (Preserves.ite hfree ?_))))
    refine Preserves.bind (fun s hs c hc => ?_) fun _ => Preserves.bind ?_ fun _ => Preserves.pure _
    · rcases List.mem_append.mp hc with hc | hc
      · exact hs c hc
      · rw [List.mem_singleton.mp hc]
        exact hline ip port hsplit
    · refine Preserves.bind (fun _ hs => hs) fun _ =>
        Preserves.bind (Preserves.update fun s hs => ?_) fun _ => fun _ hs => hs
      split_ifs
      · exact hs
      · exact hs

/-- **So does one turn of the loop**, if the newline stands behind every colon. -/
theorem loadServerLine_preserves (allocs : LineAllocs) {line : CString}
    (hline : ∀ ip port, strchr line ':' = some (ip, port) → '\n' ∈ port) :
    Preserves PortsEnded (loadServerLine allocs line) := by
  unfold loadServerLine
  refine Preserves.ite (Preserves.pure _)
    (Preserves.ite ?_ (Preserves.ite ?_ (Preserves.ite ?_ ?_)))
  · exact (Preserves.of_frame (enableBroadcastLine_frame line) portsEnded_of_lists).bind fun _ =>
      Preserves.pure _
  · exact (Preserves.of_frame (broadcastAddrLine_frame _ line) portsEnded_of_lists).bind fun _ =>
      Preserves.pure _
  · exact (Preserves.of_frame (broadcastIntervalLine_frame line) portsEnded_of_lists).bind fun _ =>
      Preserves.pure _
  · exact serverLine_preserves allocs hline

/-- A comment and an empty line are skipped. -/
theorem loadServerLine_skip (allocs : LineAllocs) {line : CString}
    (hskip : line.head? = some '\n' ∨ line.head? = some '#' ∨ line.head? = some '\r') :
    loadServerLine allocs line = pure true := by
  unfold loadServerLine
  rw [if_pos hskip]

/-! ### The loop -/

section

variable (allocs : ℕ → LineAllocs) (turn : ℕ)

theorem loadServerLines_nil :
    loadServerLines allocs turn [] = (do
      let s ← Proc.read
      return (s.servers.length : ℤ)) := by
  rw [loadServerLines]
  rfl

theorem loadServerLines_eq {file line rest : List Char} (h : fgets 255 file = some (line, rest)) :
    loadServerLines allocs turn file = (do
      let more ← loadServerLine (allocs turn) (cString line)
      if more then loadServerLines allocs (turn + 1) rest else return 0) := by
  rw [loadServerLines]
  split
  · rename_i hline
    exact absurd (h.symm.trans hline) (Option.some_ne_none _)
  · rename_i line' rest' hline
    obtain ⟨rfl, rfl⟩ := Prod.mk.inj (Option.some.inj (h.symm.trans hline))
    rfl

/-- A piece that is skipped takes one turn. -/
theorem loadServerLines_skip {file line rest : List Char}
    (h : fgets 255 file = some (line, rest))
    (hskip : (cString line).head? = some '\n' ∨ (cString line).head? = some '#' ∨
      (cString line).head? = some '\r') :
    loadServerLines allocs turn file = loadServerLines allocs (turn + 1) rest := by
  rw [loadServerLines_eq allocs turn h, loadServerLine_skip _ hskip]
  rfl

end

theorem head?_cString {c : Char} (hc : c ≠ '\x00') (s : List Char) :
    (cString (c :: s)).head? = some c := by
  unfold cString
  rw [List.takeWhile_cons, if_pos (decide_eq_true hc)]
  rfl

/-! ### Lines of the file -/

namespace ServerLine

/-- A server line is one C string, and no line ends in it. -/
theorem mem_text {l : ServerLine} {c : Char} (hc : c ∈ l.text) : c ≠ '\n' ∧ c ≠ '\x00' := by
  unfold text at hc
  cases hport : l.port with
  | none =>
    rw [hport] at hc
    exact ⟨(l.host_plain c hc).2.1, (l.host_plain c hc).2.2.2⟩
  | some port =>
    rw [hport] at hc
    rcases List.mem_append.mp hc with hc | hc
    · exact ⟨(l.host_plain c hc).2.1, (l.host_plain c hc).2.2.2⟩
    rcases List.mem_cons.mp hc with rfl | hc
    · decide
    · have hdigit := (l.port_digits port hport).2.2 c hc
      constructor
      · rintro rfl
        exact absurd hdigit (by decide)
      · rintro rfl
        exact absurd hdigit (by decide)

theorem length_text_le (l : ServerLine) : l.text.length ≤ 126 := by
  have hhost := l.host_length
  unfold text
  cases hport : l.port with
  | none => exact hhost.trans (by decide)
  | some port =>
    have hdigits := (l.port_digits port hport).2.1
    dsimp only
    rw [List.length_append, List.length_cons]
    omega

/-- Neither the port that a line names nor the default has a newline in it. -/
theorem newline_not_mem_address (l : ServerLine) : '\n' ∉ l.address.2 := by
  unfold address
  cases hport : l.port with
  | none => exact (by decide : '\n' ∉ "123".toList)
  | some port => exact fun hmem => absurd ((l.port_digits port hport).2.2 _ hmem) (by decide)

end ServerLine

theorem LineEnd.mem_text {e : LineEnd} {c : Char} (hc : c ∈ e.text) : c = '\r' := by
  cases e with
  | lf => exact absurd hc List.not_mem_nil
  | crlf => exact List.mem_singleton.mp hc

theorem LineEnd.length_text_le (e : LineEnd) : e.text.length ≤ 1 := by
  cases e <;> decide

section

variable (allocs : ℕ → LineAllocs)

/-- A comment takes one turn, or two if only its newline does not fit into the buffer. -/
theorem loadServerLines_comment {text : List Char} (hline : '\n' ∉ text)
    (hlength : text.length < 254) (e : LineEnd) (rest : List Char) (turn : ℕ) :
    ∃ turn', loadServerLines allocs turn ('#' :: text ++ e.text ++ '\n' :: rest) =
      loadServerLines allocs turn' rest := by
  have hend := e.length_text_le
  have hnot : '\n' ∉ '#' :: text ++ e.text := by
    intro hmem
    rcases List.mem_append.mp hmem with hmem | hmem
    · exact hline ((List.mem_cons.mp hmem).resolve_left (by decide))
    · exact absurd (LineEnd.mem_text hmem) (by decide)
  have hcount : ('#' :: text ++ e.text).length = text.length + 1 + e.text.length := by
    rw [List.length_append, List.length_cons]
  -- a line that fits is read with its newline
  by_cases hfits : ('#' :: text ++ e.text).length < 255
  · exact ⟨turn + 1, loadServerLines_skip allocs turn (fgets_line hnot hfits rest)
      (.inr (.inl (head?_cString (by decide) _)))⟩
  · -- one of 255 characters leaves the newline for the next turn
    have hread := fgets_long hnot (n := 255) (by decide) (by omega) ('\n' :: rest)
    rw [List.take_of_length_le (by omega), List.drop_of_length_le (by omega)] at hread
    have hnewline : fgets 255 ('\n' :: rest) = some (['\n'], rest) :=
      fgets_line List.not_mem_nil (by decide) rest
    refine ⟨turn + 1 + 1, ?_⟩
    rw [loadServerLines_skip allocs turn hread (.inr (.inl (head?_cString (by decide) _)))]
    exact loadServerLines_skip allocs (turn + 1) hnewline (.inl (head?_cString (by decide) _))

/-- What is no server is skipped. -/
theorem loadServerLines_other {l : ConfigLine} (hl : l.body.server? = none) (rest : List Char)
    (turn : ℕ) :
    ∃ turn', loadServerLines allocs turn (l.text ++ '\n' :: rest) =
      loadServerLines allocs turn' rest := by
  obtain ⟨body, e⟩ := l
  cases body with
  | comment text hline hlength => exact loadServerLines_comment allocs hline hlength e rest turn
  | empty =>
    refine ⟨turn + 1, ?_⟩
    cases e with
    | lf =>
      exact loadServerLines_skip allocs turn (fgets_line List.not_mem_nil (by decide) rest)
        (.inl (head?_cString (by decide) _))
    | crlf =>
      exact loadServerLines_skip allocs turn (fgets_line (by decide) (by decide) rest)
        (.inr (.inr (head?_cString (by decide) _)))
  | server l => exact absurd hl (Option.some_ne_none l)

/-- A server line takes one turn. -/
theorem loadServerLines_server (l : ServerLine) (e : LineEnd) (rest : List Char) (turn : ℕ) :
    loadServerLines allocs turn (l.text ++ e.text ++ '\n' :: rest) = (do
      let more ← loadServerLine (allocs turn) (l.text ++ e.text ++ ['\n'])
      if more then loadServerLines allocs (turn + 1) rest else return 0) := by
  have htext := l.length_text_le
  have hend := e.length_text_le
  have hplain : ∀ c ∈ l.text ++ e.text, c ≠ '\n' ∧ c ≠ '\x00' := by
    intro c hc
    rcases List.mem_append.mp hc with hc | hc
    · exact ServerLine.mem_text hc
    · rw [LineEnd.mem_text hc]
      decide
  have hstring : cString (l.text ++ e.text ++ ['\n']) = l.text ++ e.text ++ ['\n'] := by
    unfold cString
    rw [takeWhile_pass fun c hc => decide_eq_true (hplain c hc).2]
    rfl
  have hnot : '\n' ∉ l.text ++ e.text := fun hmem => (hplain _ hmem).1 rfl
  -- a server line is short enough to be read in one turn
  have hfits : (l.text ++ e.text).length < 255 := by
    rw [List.length_append]
    omega
  have hread := fgets_line hnot hfits rest
  rw [loadServerLines_eq allocs turn hread, hstring]

/-- **Every port that the file leads to has a newline in it**, over the whole run. -/
theorem loadServerLines_preserves (conf : List ConfigLine) (turn : ℕ) :
    Preserves PortsEnded (loadServerLines allocs turn (confText conf)) := by
  induction conf generalizing turn with
  | nil =>
    show Preserves PortsEnded (loadServerLines allocs turn [])
    rw [loadServerLines_nil]
    exact Preserves.read.bind fun _ => Preserves.pure _
  | cons l conf ih =>
    rw [confText_cons]
    -- a line of another kind adds no server
    cases hserver : l.body.server? with
    | none =>
      obtain ⟨turn', hturn⟩ := loadServerLines_other allocs hserver (confText conf) turn
      rw [hturn]
      exact ih turn'
    | some s =>
      obtain ⟨body, e⟩ := l
      obtain ⟨s', rfl⟩ : ∃ s', body = .server s' := by
        cases body with
        | server s' => exact ⟨s', rfl⟩
        | comment => exact absurd hserver.symm (Option.some_ne_none s)
        | empty => exact absurd hserver.symm (Option.some_ne_none s)
      show Preserves PortsEnded (loadServerLines allocs turn (s'.text ++ e.text ++ '\n' :: _))
      rw [loadServerLines_server]
      -- the port of a line reaches to the end of the line, the newline included
      refine Preserves.bind (loadServerLine_preserves _ fun ip port hport =>
        newline_mem_of_strchr (by decide) hport) fun more => ?_
      exact Preserves.ite (ih (turn + 1)) (Preserves.pure _)

/-- A file without servers changes nothing. -/
theorem loadServerLines_no_servers {conf : List ConfigLine} (hnone : confServers conf = [])
    (turn : ℕ) (s : ServerState) :
    (loadServerLines allocs turn (confText conf) s).state = s := by
  induction conf generalizing turn with
  | nil =>
    show (loadServerLines allocs turn [] s).state = s
    rw [loadServerLines_nil]
    rfl
  | cons l conf ih =>
    have hfilter := List.filterMap_eq_nil_iff.mp hnone
    obtain ⟨turn', hturn⟩ := loadServerLines_other allocs (hfilter l List.mem_cons_self)
      (confText conf) turn
    rw [confText_cons, hturn]
    exact ih (List.filterMap_eq_nil_iff.mpr fun l hl => hfilter l (List.mem_cons_of_mem _ hl)) turn'

end

/-! ### The servers of the file -/

/-- `g_servers` has the servers of the file, in order and with their ports, and `g_peer_pool` as
many of the first as it has room for. -/
structure LoadsServers (conf : List ConfigLine) (allocs : ℕ → LineAllocs) (s : ServerState) :
    Prop where
  servers : (loadServerConfig ⟨fun _ => some (confText conf), allocs⟩ s).state.servers.map
    (fun c => (c.ip, c.port)) = (confServers conf).map ServerLine.address
  pool : (loadServerConfig ⟨fun _ => some (confText conf), allocs⟩ s).state.daemon.peerPool.map
    (fun p => (p.ip, p.port)) =
      ((confServers conf).take (min maxPeers (confServers conf).length)).map ServerLine.address

/-- **The servers of the file are what is loaded** exactly if the file has none. -/
theorem loadsServers_iff (conf : List ConfigLine) (allocs : ℕ → LineAllocs) {s : ServerState}
    (hservers : s.servers = []) (hpool : s.daemon.peerPool = []) :
    LoadsServers conf allocs s ↔ confServers conf = [] := by
  have hrun : (loadServerConfig ⟨fun _ => some (confText conf), allocs⟩ s).state =
      (loadServerLines allocs 0 (confText conf) s).state := rfl
  constructor
  · intro h
    -- the port that was loaded ends in a newline, and the one in the file does not
    cases hlines : confServers conf with
    | nil => rfl
    | cons l ls =>
      have hloaded := h.servers
      rw [hlines, List.map_cons, hrun] at hloaded
      have hmem := (List.mem_cons_self (a := l.address) (l := ls.map ServerLine.address))
      rw [← hloaded] at hmem
      obtain ⟨c, hc, haddress⟩ := List.mem_map.mp hmem
      have hended : PortsEnded s := by
        unfold PortsEnded
        rw [hservers]
        exact fun c hc => absurd hc List.not_mem_nil
      have hnewline := loadServerLines_preserves allocs conf 0 s hended c hc
      rw [(Prod.mk.inj haddress).2] at hnewline
      exact absurd hnewline l.newline_not_mem_address
  · intro h
    have hsame := loadServerLines_no_servers allocs h 0 s
    constructor
    · rw [hrun, hsame, hservers, h]
      rfl
    · rw [hrun, hsame, hpool, h]
      rfl

/-- Every allocation succeeds. -/
def allAllocs : ℕ → LineAllocs := fun _ => ⟨true, true, true, true⟩

/-- A comment and an empty line. -/
def commentConf : List ConfigLine :=
  [⟨.comment " NTP".toList (by decide) (by decide), .lf⟩, ⟨.empty, .crlf⟩]

theorem loadsServers_comment : LoadsServers commentConf allAllocs ServerState.init :=
  (loadsServers_iff commentConf allAllocs rfl rfl).mpr rfl

/-- `pool.ntp.org:123` -/
def poolServer : ServerLine where
  host := "pool.ntp.org".toList
  port := some "123".toList
  host_ne := List.cons_ne_nil _ _
  host_plain := List.all_iff_forall_prop.mp (by decide)
  host_first := by decide
  host_length := by decide
  host_keyword := by decide
  port_digits := by
    rintro _ ⟨⟩
    exact ⟨by decide, by decide, List.all_iff_forall_prop.mp (by decide)⟩

/-- `192.168.1.2:123` -/
def secondServer : ServerLine where
  host := "192.168.1.2".toList
  port := some "123".toList
  host_ne := List.cons_ne_nil _ _
  host_plain := List.all_iff_forall_prop.mp (by decide)
  host_first := by decide
  host_length := by decide
  host_keyword := by decide
  port_digits := by
    rintro _ ⟨⟩
    exact ⟨by decide, by decide, List.all_iff_forall_prop.mp (by decide)⟩

/-- `192.168.1.1` -/
def plainServer : ServerLine where
  host := "192.168.1.1".toList
  port := none
  host_ne := List.cons_ne_nil _ _
  host_plain := List.all_iff_forall_prop.mp (by decide)
  host_first := by decide
  host_length := by decide
  host_keyword := by decide
  port_digits := nofun

/-- The two servers, each on a line. -/
def poolConf : List ConfigLine := [⟨.server poolServer, .lf⟩, ⟨.server plainServer, .lf⟩]

/-- Of the first server the port ends in the newline, and the second one is not loaded. -/
theorem not_loadsServers_pool :
    confText poolConf = "pool.ntp.org:123\n192.168.1.1\n".toList ∧
      (confServers poolConf).map ServerLine.address =
        [("pool.ntp.org".toList, "123".toList), ("192.168.1.1".toList, "123".toList)] ∧
      (loadServerConfig ⟨fun _ => some (confText poolConf), allAllocs⟩
        ServerState.init).state.servers = [⟨"pool.ntp.org".toList, "123\n".toList, 0⟩] ∧
      ¬ LoadsServers poolConf allAllocs ServerState.init := by
  have hloaded : (loadServerConfig ⟨fun _ => some (confText poolConf), allAllocs⟩
      ServerState.init).state.servers = [⟨"pool.ntp.org".toList, "123\n".toList, 0⟩] := by
    show (loadServerLines allAllocs 0 (poolServer.text ++ LineEnd.lf.text ++ '\n' ::
      (plainServer.text ++ LineEnd.lf.text ++ '\n' :: [])) ServerState.init).state.servers = _
    rw [loadServerLines_server, loadServerLines_server, loadServerLines_nil]
    decide
  refine ⟨by decide, by decide, hloaded, fun h => ?_⟩
  have hservers := h.servers
  rw [hloaded] at hservers
  revert hservers
  decide

end Dntpd
