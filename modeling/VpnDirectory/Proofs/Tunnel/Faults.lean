import Mathlib.Data.List.Forall2
import Mathlib.Data.List.Induction
import VpnDirectory.Proofs.Tunnel.Conversion

/-!
# Which fault counts

Directives are gone through twice: for the values that stand for what remotes leave out, and then
to tell remotes and routes from the others. A fault of the first round counts before all faults of
the second one, even where a later value replaces the bad one.

* `Config.valuesOf`, `Config.lastDefaults` : the values of a name, of which the last one counts
  wherever it stands; `Config.update_lastDefaults` takes one more directive into account, and
  `Config.defaults_eq` all of them.
* `Directive.Fault` : what is wrong with a remote or a route. `Config.FirstFault` is the fault of
  the first directive that has one, and `Config.parts_eq_error_iff` says that it counts.
* `Directive.Dials`, `Directive.Leads` : the connection of a remote and the route of a directive.
* `Config.profile_of_directives` : for all directives in any order, either the fault that counts or
  a profile in which every directive has its place.
-/

namespace VpnDirectory

/-! ### Faults of directives -/

/-- What is wrong with a remote or with a route. -/
inductive Directive.Fault (x : Directive) : ConfigError → Prop
  | noHost (hname : x.name = "remote") (hargs : x.args = []) : Fault x (.missingArgument "remote")
  | badPort {port : String} (hname : x.name = "remote") (hport : x.args[1]? = some port)
    (hbad : Port.ofText? port = none) : Fault x (.invalidPort port)
  | noNetwork (hname : x.name = "route") (hargs : x.args = []) : Fault x (.missingArgument "route")

/-- The connection is the one that a remote names, with the defaults where it names nothing. -/
structure Directive.Dials (d : Config.Defaults) (x : Directive) (k : Connection) : Prop where
  serverName : x.args[0]? = some k.serverName
  serverPort : (x.args[1]?).elim (k.serverPort = d.port) fun s =>
    Port.ofText? s = some k.serverPort
  usesUdp : k.usesUdp = (x.args[2]?).elim d.usesUdp Config.isUdp
  proxy : k.proxy = none

/-- The route is the one that a directive names, for a single host where it names no mask. -/
structure Directive.Leads (x : Directive) (r : Route) : Prop where
  network : x.args[0]? = some r.network
  netmask : r.netmask = x.args[1]?.getD Config.hostMask
  gateway : r.gateway = x.args[2]?

namespace Config

variable {c : Config} {d : Defaults} {x : Directive} {xs : List Directive} {e : ConfigError}

/-- The first arguments of the directives of a name, in order. -/
def valuesOf (name : String) (xs : List Directive) : List String :=
  xs.filterMap fun x => if x.name = name then x.args.head? else none

/-- The first of the default ports that is none. -/
def badPort? (xs : List Directive) : Option String :=
  (valuesOf "port" xs).find? fun s => (Port.ofText? s).isNone

/-- The defaults by the last values, wherever these stand. -/
def lastDefaults (xs : List Directive) : Defaults where
  usesUdp := (valuesOf "proto" xs).getLast?.elim true isUdp
  port := ((valuesOf "port" xs).getLast?.bind Port.ofText?).getD defaultPort

/-- The fault of the first directive that has one. -/
def FirstFault (xs : List Directive) (e : ConfigError) : Prop :=
  ∃ front x back, xs = front ++ x :: back ∧ x.Fault e ∧ ∀ y ∈ front, ∀ e', ¬ y.Fault e'

/-! ### Defaults -/

theorem valuesOf_append (name : String) (xs ys : List Directive) :
    valuesOf name (xs ++ ys) = valuesOf name xs ++ valuesOf name ys :=
  List.filterMap_append

theorem badPort?_append (xs ys : List Directive) :
    badPort? (xs ++ ys) = (badPort? xs).or (badPort? ys) := by
  rw [badPort?, valuesOf_append, List.find?_append]
  rfl

/-- One more directive either has a bad default port or gives the defaults by the last values. -/
theorem update_lastDefaults (xs : List Directive) (x : Directive) :
    (lastDefaults xs).update x =
      (badPort? [x]).elim (.ok (lastDefaults (xs ++ [x]))) fun s => .error (.invalidPort s) := by
  obtain ⟨name, args⟩ := x
  unfold lastDefaults badPort?
  rw [valuesOf_append, valuesOf_append, Defaults.update]
  split
  · next protocol rest hname hargs =>
    obtain rfl : name = "proto" := hname
    obtain rfl : args = protocol :: rest := hargs
    simp [valuesOf]
  · next port rest hname hargs =>
    obtain rfl : name = "port" := hname
    obtain rfl : args = port :: rest := hargs
    cases hport : Port.ofText? port with
    | none => simp [valuesOf, Port.ofText, hport]
    | some p => simp [valuesOf, Port.ofText, hport]
  · next hproto hport =>
    -- the directive has another name or no argument
    have hvalues (key : String) (hkey : key = "proto" ∨ key = "port") :
        valuesOf key [⟨name, args⟩] = [] := by
      cases args with
      | nil => simp [valuesOf]
      | cons s rest =>
        have hne : name ≠ key := by
          rintro rfl
          rcases hkey with hkey | hkey
          · exact hproto s rest hkey rfl
          · exact hport s rest hkey rfl
        simp [valuesOf, hne]
    simp [hvalues "proto" (.inl rfl), hvalues "port" (.inr rfl)]

/-- The first bad default port counts; without one the last values do. -/
theorem defaults_eq (xs : List Directive) : defaults xs =
    (badPort? xs).elim (.ok (lastDefaults xs)) fun s => .error (.invalidPort s) := by
  -- the induction is on the directives from the last one, which has the last word
  induction xs using List.reverseRecOn with
  | nil => rfl
  | append_singleton xs x ih =>
    rw [defaults] at ih
    rw [defaults, List.foldlM_append, ih, badPort?_append]
    cases badPort? xs with
    | some s => rfl
    | none =>
      simp only [Option.elim_none, ok_bind, List.foldlM_cons, List.foldlM_nil, Option.none_or,
        update_lastDefaults]
      cases badPort? [x] <;> rfl

theorem eq_lastDefaults (h : defaults xs = .ok d) : d = lastDefaults xs := by
  rw [defaults_eq] at h
  cases hbad : badPort? xs with
  | some s => simp [hbad] at h
  | none => simpa [hbad] using h.symm

/-! ### Remotes and routes -/

/-- A remote that has all it needs becomes the connection that it names. -/
theorem dials_of_connection {k : Connection} (h : connection d x.args = .ok k) : x.Dials d k := by
  obtain ⟨name, args⟩ := x
  cases args with
  | nil => cases h
  | cons host rest =>
    unfold connection at h
    dsimp only at h
    split at h
    · next s hs =>
      obtain ⟨port, hport, h⟩ := bind_eq_ok_iff.1 h
      cases h
      refine ⟨rfl, by simpa [hs] using Port.ofText_eq_ok_iff.1 hport, ?_, rfl⟩
      rw [List.getElem?_cons_succ]
      cases rest[1]? <;> rfl
    · next hs =>
      cases h
      refine ⟨rfl, by simp [hs], ?_, rfl⟩
      rw [List.getElem?_cons_succ]
      cases rest[1]? <;> rfl

theorem forall₂_dials {ks : List Connection}
    (h : xs.map (fun x => connection d x.args) = ks.map .ok) :
    List.Forall₂ (Directive.Dials d) xs ks := by
  rw [← List.forall₂_eq_eq_eq, List.forall₂_map_left_iff, List.forall₂_map_right_iff] at h
  exact h.imp fun x k => dials_of_connection

theorem leads_of_route {r : Route} (h : route x.args = .ok r) : x.Leads r := by
  obtain ⟨name, args⟩ := x
  cases args with
  | nil => cases h
  | cons network rest =>
    cases h
    exact ⟨rfl, by simp, by simp⟩

/-- What keeps a remote from becoming a connection is its fault. -/
theorem connection_eq_error_iff (hname : x.name = "remote") :
    connection d x.args = .error e ↔ x.Fault e := by
  have hroute : x.name ≠ "route" := by rw [hname]; decide
  unfold connection
  constructor
  · intro h
    cases hargs : x.args with
    | nil =>
      rw [hargs] at h
      cases h
      exact .noHost hname hargs
    | cons host rest =>
      rw [hargs] at h
      cases hport : rest[0]? with
      | none => simp [hport] at h
      | some port =>
        cases hbad : Port.ofText? port with
        | some p => simp [hport, Port.ofText, hbad] at h
        | none =>
          obtain rfl : .invalidPort port = e := by simpa [hport, Port.ofText, hbad] using h
          exact .badPort hname (by rw [hargs]; exact hport) hbad
  · intro h
    cases h with
    | noHost _ hargs => rw [hargs]
    | badPort _ hport hbad =>
      cases hargs : x.args with
      | nil => simp [hargs] at hport
      | cons host rest =>
        rw [hargs, List.getElem?_cons_succ] at hport
        simp [hport, Port.ofText, hbad]
    | noNetwork hname' => exact absurd hname' hroute

theorem route_eq_error_iff (hname : x.name = "route") :
    route x.args = .error e ↔ x.Fault e := by
  have hremote : x.name ≠ "remote" := by rw [hname]; decide
  unfold route
  constructor
  · intro h
    cases hargs : x.args with
    | nil =>
      rw [hargs] at h
      cases h
      exact .noNetwork hname hargs
    | cons network rest =>
      rw [hargs] at h
      cases h
  · intro h
    cases h with
    | noHost hname' | badPort hname' => exact absurd hname' hremote
    | noNetwork _ hargs => rw [hargs]

/-- Only remotes and routes have a fault. -/
theorem not_fault (hremote : x.name ≠ "remote") (hroute : x.name ≠ "route") (e : ConfigError) :
    ¬ x.Fault e := by
  intro h
  cases h with
  | noHost hname | badPort hname => exact hremote hname
  | noNetwork hname => exact hroute hname

theorem firstFault_cons : FirstFault (x :: xs) e ↔
    x.Fault e ∨ (∀ e', ¬ x.Fault e') ∧ FirstFault xs e := by
  constructor
  · rintro ⟨front, y, back, hsplit, hy, hfront⟩
    cases front with
    | nil =>
      cases hsplit
      exact .inl hy
    | cons z front =>
      cases hsplit
      obtain ⟨hz, hfront⟩ := List.forall_mem_cons.1 hfront
      exact .inr ⟨hz, front, y, back, rfl, hy, hfront⟩
  · rintro (hx | ⟨hx, front, y, back, rfl, hy, hfront⟩)
    · exact ⟨[], x, xs, rfl, hx, List.forall_mem_nil _⟩
    · exact ⟨x :: front, y, back, rfl, hy, List.forall_mem_cons.2 ⟨hx, hfront⟩⟩

/-- The fault of a directive counts before those of the directives after it. -/
theorem bind_eq_error_iff_firstFault {α : Type} {r : Except ConfigError α}
    {f : α → Except ConfigError Parts} (hr : ∀ e', r = .error e' ↔ x.Fault e')
    (hf : ∀ a, f a = .error e ↔ FirstFault xs e) :
    r >>= f = .error e ↔ FirstFault (x :: xs) e := by
  simp only [firstFault_cons, ← hr]
  cases r with
  | error e' => simp
  | ok a => simp [hf]

/-- The fault of the first directive that has one counts when directives are told apart. -/
theorem parts_eq_error_iff (d : Defaults) (xs : List Directive) :
    parts d xs = .error e ↔ FirstFault xs e := by
  induction xs with
  | nil => simp [parts, FirstFault]
  | cons x xs ih =>
    have hrest (f : Parts → Parts) : (parts d xs >>= fun p => .ok (f p)) = .error e ↔
        FirstFault xs e := by
      rw [← ih]
      cases parts d xs <;> simp
    rw [parts]
    split
    · next hname =>
      exact bind_eq_error_iff_firstFault (fun _ => connection_eq_error_iff hname) fun k => hrest _
    · split
      · next hname =>
        exact bind_eq_error_iff_firstFault (fun _ => route_eq_error_iff hname) fun r => hrest _
      · next hremote hroute =>
        rw [hrest, firstFault_cons]
        simp [not_fault hremote hroute]

/-- Without a fault, directives can be told apart. -/
theorem exists_parts_of_forall_not (d : Defaults) (h : ∀ e, ¬ FirstFault xs e) :
    ∃ p, parts d xs = .ok p := by
  cases hparts : parts d xs with
  | ok p => exact ⟨p, rfl⟩
  | error e => exact absurd ((parts_eq_error_iff d xs).1 hparts) (h e)

/-! ### Profiles -/

/-- The profile has all that a configuration says, everything in its order: a route for each
directive that names one, the connection of each remote or else the one to the bridge, and every
other directive as it is. -/
structure IsProfileOf (c : Config) (options : Option ObfuscationOptions) (t : Transport)
    (p : Profile) : Prop where
  routes : List.Forall₂ Directive.Leads (c.directives.filter Directive.isRoute) p.routes
  directives : p.directives = c.directives.filter fun x => !x.isEndpoint
  connections : t.isPluggable = false → p.options = none ∧
    List.Forall₂ (Directive.Dials (lastDefaults c.directives))
      (c.directives.filter Directive.isRemote) p.connections
  bridge : t.isPluggable → ∃ o, options = some o ∧ p.options = some o ∧
    p.connections = [.obfuscated o]
  blocks : p.blocks = c.blocks
  text : p.text = c.text
  transport : p.transport = t ∧ p.isPluggable = t.isPluggable

theorem isProfileOf_of_profile {options : Option ObfuscationOptions} {t : Transport} {p : Profile}
    (hd : defaults c.directives = .ok (lastDefaults c.directives))
    (h : c.profile options t = .ok p) : IsProfileOf c options t p := by
  obtain ⟨d, q, hd', hq, hoptions, rfl⟩ := profile_eq_ok_iff.1 h
  obtain rfl : d = lastDefaults c.directives := Except.ok.inj (hd'.symm.trans hd)
  obtain ⟨hremotes, hroutes⟩ := of_parts hq
  have hleads : List.Forall₂ Directive.Leads (c.directives.filter Directive.isRoute) q.routes := by
    rw [← List.forall₂_eq_eq_eq, List.forall₂_map_left_iff, List.forall₂_map_right_iff] at hroutes
    exact hroutes.imp fun x r => leads_of_route
  refine ⟨hleads, others_of_parts hq, fun ht => ?_, fun ht => ?_, rfl, rfl, rfl, rfl⟩
  · simpa [ht] using forall₂_dials hremotes
  · obtain ⟨o, rfl⟩ := Option.isSome_iff_exists.1 (hoptions ht)
    exact ⟨o, rfl, by simp [ht], by simp [ht]⟩

/-- The conversion of any directives, in any order and for any transport. A bad default port counts
before all other faults, also if a later one replaces it; then the fault of the first remote or
route that has one, also if an obfuscated tunnel leaves all remotes out; then a lack of options. In
all other cases there is a profile, and every directive has its place in it. -/
theorem profile_of_directives (c : Config) (options : Option ObfuscationOptions) (t : Transport) :
    (∀ s, badPort? c.directives = some s → c.profile options t = .error (.invalidPort s)) ∧
      (badPort? c.directives = none →
        (∀ e, FirstFault c.directives e → c.profile options t = .error e) ∧
        ((∀ e, ¬ FirstFault c.directives e) →
          (t.isPluggable → options = none →
            c.profile options t = .error (.missingTransportOptions t)) ∧
          ((t.isPluggable → options.isSome) →
            ∃ p, c.profile options t = .ok p ∧ IsProfileOf c options t p))) := by
  have hdefaults := defaults_eq c.directives
  refine ⟨fun s hs => ?_, fun hnone => ?_⟩
  · rw [hs] at hdefaults
    rw [profile, hdefaults]
    rfl
  · rw [hnone] at hdefaults
    refine ⟨fun e he => ?_, fun hfault => ?_⟩
    · have hparts := (parts_eq_error_iff (lastDefaults c.directives) c.directives).2 he
      simp only [profile, hdefaults, Option.elim_none, ok_bind, hparts, error_bind]
    · obtain ⟨q, hq⟩ := exists_parts_of_forall_not (lastDefaults c.directives) hfault
      refine ⟨fun ht hoptions => ?_, fun hoptions => ?_⟩
      · simp only [profile, hdefaults, Option.elim_none, ok_bind, hq, ht, hoptions, if_true]
      · have hprofile := profile_eq_ok_iff.2 ⟨_, q, hdefaults, hq, hoptions, rfl⟩
        exact ⟨_, hprofile, isProfileOf_of_profile hdefaults hprofile⟩

/-! ### Directives in an odd order -/

namespace OddOrder

/-- A bad default port that a later one replaces, after a remote without a host. -/
def replaced : Config where
  directives := [⟨"remote", []⟩, ⟨"port", ["http"]⟩, ⟨"port", ["443"]⟩]

/-- Two directives that are bad, after one that is good. -/
def bad : Config where
  directives := [⟨"route", ["192.0.2.7"]⟩, ⟨"remote", ["a.example", "65536"]⟩, ⟨"route", []⟩]

/-- Defaults after the remote that they count for. -/
def late : Config where
  directives := [⟨"remote", ["a.example"]⟩, ⟨"proto", ["tcp4"]⟩, ⟨"port", ["1"]⟩,
    ⟨"route", ["192.0.2.7"]⟩, ⟨"remote", ["b.example", "080", "udp6"]⟩, ⟨"port", ["+443"]⟩,
    ⟨"proto", []⟩]

theorem badPort?_bad : badPort? bad.directives = none := rfl

theorem firstFault_bad : FirstFault bad.directives (.invalidPort "65536") :=
  (parts_eq_error_iff {} _).1 rfl

theorem badPort?_late : badPort? late.directives = none := rfl

theorem not_firstFault_late (e : ConfigError) : ¬ FirstFault late.directives e := by
  intro h
  have hparts := (parts_eq_error_iff {} _).2 h
  cases hparts

end OddOrder

/-- Each of the faults in turn, and a profile with the last of the default ports. -/
theorem profile_of_directives_oddOrder :
    OddOrder.replaced.profile none .obfs4 = .error (.invalidPort "http") ∧
      OddOrder.bad.profile none .obfs4 = .error (.invalidPort "65536") ∧
      OddOrder.late.profile none .obfs4 = .error (.missingTransportOptions .obfs4) ∧
      ∃ p, OddOrder.late.profile none .openvpn = .ok p ∧
        p.connections = [⟨"a.example", 443, false, none⟩, ⟨"b.example", 80, true, none⟩] ∧
        p.routes = [⟨"192.0.2.7", "255.255.255.255", none⟩] ∧
        p.directives.map (·.name) = ["proto", "port", "port", "proto"] := by
  obtain ⟨hreplaced, -⟩ := profile_of_directives OddOrder.replaced none .obfs4
  obtain ⟨-, hbad⟩ := profile_of_directives OddOrder.bad none .obfs4
  obtain ⟨-, hlate⟩ := profile_of_directives OddOrder.late none .obfs4
  obtain ⟨-, hplain⟩ := profile_of_directives OddOrder.late none .openvpn
  obtain ⟨p, hp, -⟩ := (hplain OddOrder.badPort?_late).2 OddOrder.not_firstFault_late |>.2 nofun
  refine ⟨hreplaced "http" rfl, (hbad OddOrder.badPort?_bad).1 _ OddOrder.firstFault_bad,
    ((hlate OddOrder.badPort?_late).2 OddOrder.not_firstFault_late).1 rfl rfl, p, hp, ?_⟩
  cases hp
  exact ⟨rfl, rfl, rfl⟩

end Config

end VpnDirectory
