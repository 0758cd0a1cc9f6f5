import MaudeStore.GoString

/-! The Config New fills with defaults, the two DSN strings openServerConnection builds with
fmt.Sprintf, and how they read back: the DSN grammar of go-sql-driver/mysql
([user[:password]@][net[(addr)]]/dbname[?params]) and net.SplitHostPort. -/
namespace MaudeStore.Dsn
open GoString

structure Config where
  host : List UInt8
  port : Int
  user : List UInt8
  password : List UInt8
  database : List UInt8
  readOnly : Bool

def defaultPort : Int := 3306

/-- The defaults at the top of New; env is the value of BEADS_MARIADB_PASSWORD. -/
def withDefaults (env : List UInt8) (cfg : Config) : Config :=
  { cfg with
    database := if cfg.database = [] then bytes "beads" else cfg.database
    host := if cfg.host = [] then bytes "127.0.0.1" else cfg.host
    port := if cfg.port = 0 then defaultPort else cfg.port
    user := if cfg.user = [] then bytes "root" else cfg.user
    password := if cfg.password = [] then env else cfg.password }

structure FactoryOptions where
  serverHost : List UInt8
  serverPort : Int
  serverUser : List UInt8
  database : List UInt8
  readOnly : Bool

/-- The Config the factory's MariaDB backend passes to New: it sets no password. -/
def factoryConfig (opts : FactoryOptions) : Config :=
  ⟨opts.serverHost, opts.serverPort, opts.serverUser, [], opts.database, opts.readOnly⟩

def decimalAux : Nat → Nat → List UInt8 → List UInt8
  | 0, _, acc => acc
  | fuel + 1, n, acc =>
    let acc' := (n % 10 + 48).toUInt8 :: acc
    if n / 10 = 0 then acc' else decimalAux fuel (n / 10) acc'

def fmtInt (i : Int) : List UInt8 :=
  if i < 0 then 45 :: decimalAux (i.natAbs + 1) i.natAbs [] else decimalAux (i.natAbs + 1) i.natAbs []

def hostPort (cfg : Config) : List UInt8 := cfg.host ++ bytes ":" ++ fmtInt cfg.port

/-- The pool's DSN: user:password@tcp(host:port)/database?parseTime=true. -/
def connStr (cfg : Config) : List UInt8 :=
  if cfg.password ≠ [] then
    cfg.user ++ bytes ":" ++ cfg.password ++ bytes "@tcp(" ++ hostPort cfg ++ bytes ")/" ++
      cfg.database ++ bytes "?parseTime=true"
  else cfg.user ++ bytes "@tcp(" ++ hostPort cfg ++ bytes ")/" ++ cfg.database ++ bytes "?parseTime=true"

def initConnStr (cfg : Config) : List UInt8 :=
  if cfg.password ≠ [] then
    cfg.user ++ bytes ":" ++ cfg.password ++ bytes "@tcp(" ++ hostPort cfg ++ bytes ")/?parseTime=true"
  else cfg.user ++ bytes "@tcp(" ++ hostPort cfg ++ bytes ")/?parseTime=true"

def splitFirst (b : UInt8) (s : List UInt8) : Option (List UInt8 × List UInt8) :=
  match s.dropWhile (· ≠ b) with
  | _ :: rest => some (s.takeWhile (· ≠ b), rest)
  | [] => none

def splitLast (b : UInt8) (s : List UInt8) : Option (List UInt8 × List UInt8) :=
  (splitFirst b s.reverse).map fun p => (p.2.reverse, p.1.reverse)

structure DsnFields where
  user : List UInt8
  passwd : List UInt8
  net : List UInt8
  addr : List UInt8
  dbName : List UInt8
  deriving DecidableEq

def parseCreds (creds : List UInt8) : List UInt8 × List UInt8 := (splitFirst 58 creds).getD (creds, [])

def parseNetAddr (netAddr : List UInt8) : Option (List UInt8 × List UInt8) :=
  match splitFirst 40 netAddr with
  | none => some (netAddr, [])
  | some (n, rest) => if rest.getLast? = some 41 then some (n, rest.dropLast) else none

/-- ParseDSN: dbname after the last '/', up to the first '?'; the credentials before the
last '@' ahead of that '/'. -/
def parseDSN (dsn : List UInt8) : Option DsnFields := do
  let (left, right) ← splitLast 47 dsn
  let (creds, netAddr) := (splitLast 64 left).getD ([], left)
  let (net, addr) ← parseNetAddr netAddr
  some ⟨(parseCreds creds).1, (parseCreds creds).2, net, addr, ((splitFirst 63 right).getD (right, [])).1⟩

/-- net.SplitHostPort: the port after the last ':'; a host in brackets must end right
before that ':'; otherwise the host holds no ':'; no stray '[' or ']'. -/
def splitHostPort (hp : List UInt8) : Option (List UInt8 × List UInt8) := do
  let (pre, port) ← splitLast 58 hp
  if hp.head? = some 91 then
    let (a, rest) ← splitFirst 93 hp
    if rest = 58 :: port ∧ 91 ∉ hp.tail ∧ 93 ∉ rest then some (a.tail, port) else none
  else if 58 ∈ pre ∨ 91 ∈ hp ∨ 93 ∈ hp then none else some (pre, port)

theorem splitFirst_append {b : UInt8} {x : List UInt8} (hx : b ∉ x) (y : List UInt8) :
    splitFirst b (x ++ b :: y) = some (x, y) := by
  induction x with
  | nil => simp [splitFirst]
  | cons c x ih =>
    have hc : c ≠ b := fun h => hx (h ▸ List.mem_cons_self c x)
    have := ih (fun h => hx (List.mem_cons_of_mem c h))
    simp only [splitFirst, List.cons_append, List.dropWhile_cons, List.takeWhile_cons, hc] at this ⊢
    split at this <;> simp_all

theorem splitFirst_of_not_mem {b : UInt8} {s : List UInt8} (hs : b ∉ s) : splitFirst b s = none := by
  have : s.dropWhile (fun x => !decide (x = b)) = [] :=
    List.dropWhile_eq_nil_iff.2 fun c hc => by
      have : c ≠ b := fun h => hs (h ▸ hc)
      simpa using this
  simp [splitFirst, this]

theorem splitLast_append {b : UInt8} (x : List UInt8) {y : List UInt8} (hy : b ∉ y) :
    splitLast b (x ++ b :: y) = some (x, y) := by
  simp [splitLast, splitFirst_append (List.mem_reverse.not.2 hy)]

theorem decimalAux_byte {f n : Nat} {acc : List UInt8} {b : UInt8} (h : b ∈ decimalAux f n acc) :
    b ∈ acc ∨ ∃ d < 10, b = (d + 48).toUInt8 := by
  induction f generalizing n acc with
  | zero => exact .inl h
  | succ f ih =>
    have hd : ∀ c ∈ (n % 10 + 48).toUInt8 :: acc, c ∈ acc ∨ ∃ d < 10, c = (d + 48).toUInt8 :=
      fun c hc => (List.mem_cons.1 hc).elim (fun e => .inr ⟨n % 10, Nat.mod_lt _ (by omega), e⟩) .inl
    simp only [decimalAux] at h
    split at h
    · exact hd b h
    · exact (ih h).elim (hd b) .inr

theorem fmtInt_separator {i : Int} {b : UInt8} (h : b ∈ fmtInt i) :
    b ∉ ([40, 41, 47, 58, 63, 64, 91, 93] : List UInt8) := by
  have digit : ∀ d < 10, (d + 48).toUInt8 ∉ ([40, 41, 47, 58, 63, 64, 91, 93] : List UInt8) := by
    decide
  unfold fmtInt at h
  split at h
  · rcases List.mem_cons.1 h with rfl | h
    · decide
    · obtain ⟨d, hd, rfl⟩ := (decimalAux_byte h).resolve_left (List.not_mem_nil _)
      exact digit d hd
  · obtain ⟨d, hd, rfl⟩ := (decimalAux_byte h).resolve_left (List.not_mem_nil _)
    exact digit d hd

theorem parseDSN_format (creds A D : List UInt8) (hA : 64 ∉ A) (hD : 47 ∉ D ∧ 63 ∉ D) :
    parseDSN (creds ++ bytes "@tcp(" ++ A ++ bytes ")/" ++ D ++ bytes "?parseTime=true") =
      some ⟨(parseCreds creds).1, (parseCreds creds).2, bytes "tcp", A, D⟩ := by
  have e : creds ++ bytes "@tcp(" ++ A ++ bytes ")/" ++ D ++ bytes "?parseTime=true" =
      (creds ++ 64 :: (bytes "tcp" ++ 40 :: (A ++ [41]))) ++
        47 :: (D ++ 63 :: bytes "parseTime=true") := by
    simp [show bytes "@tcp(" = 64 :: bytes "tcp" ++ [40] from rfl, show bytes ")/" = [41, 47] from rfl,
      show bytes "?parseTime=true" = 63 :: bytes "parseTime=true" from rfl]
  have h47 : 47 ∉ D ++ 63 :: bytes "parseTime=true" := by simpa [hD.1] using by decide
  have h64 : 64 ∉ bytes "tcp" ++ 40 :: (A ++ [41]) := by simpa [hA] using by decide
  have hnet : parseNetAddr (bytes "tcp" ++ 40 :: (A ++ [41])) = some (bytes "tcp", A) := by
    simp [parseNetAddr, splitFirst_append (show (40 : UInt8) ∉ bytes "tcp" by decide)]
  rw [e]
  simp only [parseDSN, Option.bind_eq_bind, splitLast_append _ h47, Option.some_bind, splitLast_append _ h64,
    Option.getD_some, hnet, splitFirst_append hD.2]

theorem parseCreds_eq (c : Config) (hu : 58 ∉ c.user) :
    parseCreds (if c.password ≠ [] then c.user ++ bytes ":" ++ c.password else c.user) =
      (c.user, c.password) := by
  unfold parseCreds
  split
  · rw [show bytes ":" = [58] from rfl, List.append_assoc, List.singleton_append,
      splitFirst_append hu]
    rfl
  · simp_all [splitFirst_of_not_mem hu]

theorem connStr_eq (c : Config) : connStr c =
    (if c.password ≠ [] then c.user ++ bytes ":" ++ c.password else c.user) ++ bytes "@tcp(" ++
      hostPort c ++ bytes ")/" ++ c.database ++ bytes "?parseTime=true" := by
  unfold connStr; split <;> simp

theorem initConnStr_eq (c : Config) : initConnStr c =
    (if c.password ≠ [] then c.user ++ bytes ":" ++ c.password else c.user) ++ bytes "@tcp(" ++
      hostPort c ++ bytes ")/" ++ [] ++ bytes "?parseTime=true" := by
  unfold initConnStr; split <;> simp [show bytes ")/?parseTime=true" = bytes ")/" ++ bytes "?parseTime=true" from rfl]

theorem splitHostPort_hostPort (c : Config) (hh : 58 ∉ c.host ∧ 91 ∉ c.host ∧ 93 ∉ c.host) :
    splitHostPort (hostPort c) = some (c.host, fmtInt c.port) := by
  have hp : ∀ b ∈ ([58, 91, 93] : List UInt8), b ∉ fmtInt c.port := fun b hb h => by
    have := fmtInt_separator h
    simp only [List.mem_cons, List.mem_singleton] at hb
    rcases hb with rfl | rfl | rfl | h <;> simp_all
  have e : hostPort c = c.host ++ 58 :: fmtInt c.port := by
    simp [hostPort, show bytes ":" = [58] from rfl]
  have hhead : c.host.head? ≠ some 91 := fun h => hh.2.1 (List.mem_of_mem_head? h)
  rw [e]
  simp [splitHostPort, splitLast_append _ (hp 58 (by simp)), hhead, hh.1, hh.2.1, hh.2.2,
    hp 91 (by simp), hp 93 (by simp)]

theorem parseDSN_connStr (c : Config) (hu : 58 ∉ c.user) (hd : 47 ∉ c.database ∧ 63 ∉ c.database)
    (hh : 64 ∉ c.host) :
    parseDSN (connStr c) = some ⟨c.user, c.password, bytes "tcp", hostPort c, c.database⟩ ∧
      parseDSN (initConnStr c) = some ⟨c.user, c.password, bytes "tcp", hostPort c, []⟩ := by
  have hA : 64 ∉ hostPort c := by
    simp only [hostPort, List.mem_append, not_or]
    exact ⟨⟨hh, by decide⟩, fun h => fmtInt_separator h (by simp)⟩
  constructor
  · rw [connStr_eq, parseDSN_format _ _ _ hA hd, parseCreds_eq c hu]
  · rw [initConnStr_eq, parseDSN_format _ _ _ hA (by simp), parseCreds_eq c hu]

/-- The DSNs read back: user, password, database, net tcp and an address that
SplitHostPort splits into the host and the port's decimal text, whenever the user has no
':', the database no '/' or '?', and the host none of ':', '@', '[' and ']'. -/
theorem connStr_roundtrip (c : Config) (hu : 58 ∉ c.user) (hd : 47 ∉ c.database ∧ 63 ∉ c.database)
    (hh : 58 ∉ c.host ∧ 64 ∉ c.host ∧ 91 ∉ c.host ∧ 93 ∉ c.host) :
    parseDSN (connStr c) = some ⟨c.user, c.password, bytes "tcp", hostPort c, c.database⟩ ∧
      parseDSN (initConnStr c) = some ⟨c.user, c.password, bytes "tcp", hostPort c, []⟩ ∧
      splitHostPort (hostPort c) = some (c.host, fmtInt c.port) :=
  ⟨(parseDSN_connStr c hu hd hh.2.1).1, (parseDSN_connStr c hu hd hh.2.1).2,
    splitHostPort_hostPort c ⟨hh.1, hh.2.2⟩⟩

theorem connStr_roundtrip_defaults :
    let c := withDefaults [] ⟨[], 0, [], [], [], false⟩
    parseDSN (connStr c) = some ⟨c.user, c.password, bytes "tcp", hostPort c, c.database⟩ ∧
      parseDSN (initConnStr c) = some ⟨c.user, c.password, bytes "tcp", hostPort c, []⟩ ∧
      splitHostPort (hostPort c) = some (c.host, fmtInt c.port) :=
  connStr_roundtrip _ (by decide) (by decide) (by decide)

theorem not_mem_default {b : UInt8} {x d : List UInt8} (hd : b ∉ d) (hx : b ∉ x) :
    b ∉ (if x = [] then d else x) := by
  split <;> assumption

/-- The factory's backend passes no password, so the pool's DSN carries the environment's
BEADS_MARIADB_PASSWORD whatever the options, with the options' user, server and database
after New's defaults. -/
theorem factory_connStr (env : List UInt8) (opts : FactoryOptions) (hu : 58 ∉ opts.serverUser)
    (hd : 47 ∉ opts.database ∧ 63 ∉ opts.database)
    (hh : 58 ∉ opts.serverHost ∧ 64 ∉ opts.serverHost ∧ 91 ∉ opts.serverHost ∧
      93 ∉ opts.serverHost) :
    let c := withDefaults env (factoryConfig opts)
    parseDSN (connStr c) = some ⟨c.user, env, bytes "tcp", hostPort c, c.database⟩ ∧
      splitHostPort (hostPort c) = some (c.host, fmtInt c.port) := by
  intro c
  have hpw : c.password = env := by simp [c, withDefaults, factoryConfig]
  have hdsn := (parseDSN_connStr c (not_mem_default (by decide) hu)
    ⟨not_mem_default (by decide) hd.1, not_mem_default (by decide) hd.2⟩
    (not_mem_default (by decide) hh.2.1)).1
  rw [hpw] at hdsn
  exact ⟨hdsn, splitHostPort_hostPort c ⟨not_mem_default (by decide) hh.1,
    not_mem_default (by decide) hh.2.2.1, not_mem_default (by decide) hh.2.2.2⟩⟩

theorem factory_connStr_defaults :
    let c := withDefaults (bytes "secret") (factoryConfig ⟨[], 0, [], [], false⟩)
    parseDSN (connStr c) = some ⟨c.user, bytes "secret", bytes "tcp", hostPort c, c.database⟩ ∧
      splitHostPort (hostPort c) = some (c.host, fmtInt c.port) :=
  factory_connStr (bytes "secret") ⟨[], 0, [], [], false⟩ (by decide) (by decide) (by decide)

/-- A ':' in the user name ends it early: the DSN format has no escape for it. -/
theorem connStr_user_colon_counterexample :
    parseDSN (connStr (withDefaults [] ⟨[], 0, bytes "a:b", bytes "pw", [], false⟩)) =
      some ⟨bytes "a", bytes "b:pw", bytes "tcp", bytes "127.0.0.1:3306", bytes "beads"⟩ := by
  decide

end MaudeStore.Dsn
