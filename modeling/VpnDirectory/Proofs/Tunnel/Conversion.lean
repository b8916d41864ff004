import VpnDirectory.Proofs.Fallible
import VpnDirectory.Tunnel.Profile

/-!
# From directives to a profile

`Config.parts` tells the directives of a configuration apart.

* `Config.parts_append` : directives one after another are told apart one after another.
* `Config.others_of_parts` and `Config.of_parts` : what is neither a remote nor a route is kept, and
  connections and routes come of the others, all of them in order.
* `Config.parts_of_forall_not` and `Config.parts_remotes` : directives none of which names an end
  point, and remotes that are written out.
* `Directive.IsConvertible`, `Config.exists_profile_iff` : there is a profile exactly when every
  directive is good on its own and a pluggable transport has its options.
* `Config.profile_eq_ok_iff` and `Config.profile_openvpn_eq_ok_iff` : which profile this is;
  `Config.of_profile` : what every profile keeps of its configuration.
-/

namespace VpnDirectory

/-- Does the directive become a connection or a route? -/
def Directive.isEndpoint (x : Directive) : Bool := x.name = "remote" || x.name = "route"

/-- Does the directive become a connection? -/
def Directive.isRemote (x : Directive) : Bool := x.name = "remote"

/-- Does the directive become a route? -/
def Directive.isRoute (x : Directive) : Bool := x.name = "route"

/-- The directives that leave no trace in a profile are the remotes of an obfuscated tunnel. -/
theorem Directive.traceless_iff (t : Transport) (x : Directive) :
    (!x.isEndpoint) = false ∧ x.isRoute = false ∧ (t.isPluggable = false → x.isRemote = false) ↔
      t.isPluggable ∧ x.isRemote := by
  have hendpoint : x.isEndpoint = (x.isRemote || x.isRoute) := rfl
  have hdistinct : x.isRemote → x.isRoute = false := by
    simp only [isRemote, isRoute, decide_eq_true_eq, decide_eq_false_iff_not]
    intro hname
    rw [hname]
    decide
  rw [hendpoint]
  cases hremote : x.isRemote with
  | false => simp
  | true => simp [hdistinct hremote]

/-- Can the directive become part of a profile? A remote needs a host and a route a network, and
what stands in the place of a port has to be one. -/
def Directive.IsConvertible (x : Directive) : Prop :=
  (x.name = "remote" → x.args ≠ [] ∧ ∀ s, x.args[1]? = some s → (Port.ofText? s).isSome) ∧
    (x.name = "route" → x.args ≠ []) ∧
    (x.name = "port" → ∀ s, x.args[0]? = some s → (Port.ofText? s).isSome)

theorem Port.ofText_eq_ok_iff {s : String} {p : Port} : ofText s = .ok p ↔ ofText? s = some p := by
  rw [ofText]
  cases ofText? s <;> simp

namespace Config

variable {c : Config} {d : Defaults} {x : Directive} {xs ys : List Directive} {p q : Parts}

/-- Parts one after another. -/
def Parts.append (p q : Parts) : Parts where
  connections := p.connections ++ q.connections
  routes := p.routes ++ q.routes
  others := p.others ++ q.others

theorem parts_append (d : Defaults) (xs ys : List Directive) :
    parts d (xs ++ ys) = parts d xs >>= fun p => parts d ys >>= fun q => .ok (p.append q) := by
  induction xs with
  | nil =>
    simp only [List.nil_append, parts, ok_bind]
    cases parts d ys <;> rfl
  | cons x xs ih =>
    rw [List.cons_append, parts, parts, ih]
    split
    · cases connection d x.args with
      | error e => rfl
      | ok c => cases parts d xs <;> cases parts d ys <;> rfl
    · split
      · cases route x.args with
        | error e => rfl
        | ok r => cases parts d xs <;> cases parts d ys <;> rfl
      · cases parts d xs <;> cases parts d ys <;> rfl

/-- What is neither a remote nor a route is kept, in order. -/
theorem others_of_parts (h : parts d xs = .ok p) :
    p.others = xs.filter fun x => !x.isEndpoint := by
  induction xs generalizing p with
  | nil =>
    obtain rfl : {} = p := by simpa [parts] using h
    rfl
  | cons x xs ih =>
    rw [parts] at h
    split at h
    · next hname =>
      obtain ⟨c, -, h⟩ := bind_eq_ok_iff.1 h
      obtain ⟨rest, hrest, h⟩ := bind_eq_ok_iff.1 h
      cases h
      simp [ih hrest, Directive.isEndpoint, hname]
    · split at h
      · next hname =>
        obtain ⟨r, -, h⟩ := bind_eq_ok_iff.1 h
        obtain ⟨rest, hrest, h⟩ := bind_eq_ok_iff.1 h
        cases h
        simp [ih hrest, Directive.isEndpoint, hname]
      · next hremote hroute =>
        obtain ⟨rest, hrest, h⟩ := bind_eq_ok_iff.1 h
        cases h
        simp [ih hrest, Directive.isEndpoint, hremote, hroute]

theorem parts_of_forall_not (h : ∀ x ∈ xs, x.isEndpoint = false) :
    parts d xs = .ok { others := xs } := by
  induction xs with
  | nil => rfl
  | cons x xs ih =>
    have hx : x.name ≠ "remote" ∧ x.name ≠ "route" := by
      simpa [Directive.isEndpoint] using h x List.mem_cons_self
    rw [parts, if_neg hx.1, if_neg hx.2, ih fun y hy => h y (List.mem_cons_of_mem x hy)]
    rfl

/-- Remotes with good arguments become connections, in order. -/
theorem parts_remotes {α : Type} {as : List α} {f : α → Directive} {g : α → Connection}
    (h : ∀ a ∈ as, (f a).name = "remote" ∧ connection d (f a).args = .ok (g a)) :
    parts d (as.map f) = .ok { connections := as.map g } := by
  induction as with
  | nil => rfl
  | cons a as ih =>
    obtain ⟨hname, hconnection⟩ := h a List.mem_cons_self
    rw [List.map_cons, parts, if_pos hname, hconnection,
      ih fun b hb => h b (List.mem_cons_of_mem a hb)]
    rfl

/-! ### When directives can be told apart -/

theorem exists_update_iff (d : Defaults) (x : Directive) : (∃ d', d.update x = .ok d') ↔
    (x.name = "port" → ∀ s, x.args[0]? = some s → (Port.ofText? s).isSome) := by
  rw [Defaults.update]
  split
  · next hname _ => simp [hname]
  · next port _ hname hargs =>
    rw [hname, hargs]
    simp [exists_bind_eq_ok_iff, Port.ofText_eq_ok_iff, Option.isSome_iff_exists]
  · next hport =>
    refine iff_of_true ⟨d, rfl⟩ fun hname s hs => ?_
    obtain ⟨args, hargs⟩ : ∃ args, x.args = s :: args := by
      cases hargs : x.args <;> simp_all
    exact absurd hargs (hport s args hname)

/-- There are defaults exactly when every default port is one. -/
theorem exists_defaults_iff : (∃ d, defaults xs = .ok d) ↔
    ∀ x ∈ xs, x.name = "port" → ∀ s, x.args[0]? = some s → (Port.ofText? s).isSome := by
  suffices hfold : ∀ d, (∃ d', xs.foldlM Defaults.update d = .ok d') ↔
      ∀ x ∈ xs, x.name = "port" → ∀ s, x.args[0]? = some s → (Port.ofText? s).isSome from hfold {}
  induction xs with
  | nil => exact fun d => iff_of_true ⟨d, rfl⟩ (List.forall_mem_nil _)
  | cons x xs ih =>
    intro d
    rw [List.forall_mem_cons, ← exists_update_iff d]
    simp only [List.foldlM_cons, exists_bind_eq_ok_iff, ih, exists_and_right]

/-- Remotes and routes say nothing about the defaults. -/
theorem update_of_isEndpoint (d : Defaults) (h : x.isEndpoint) : d.update x = .ok d := by
  have hname : x.name = "remote" ∨ x.name = "route" := by simpa [Directive.isEndpoint] using h
  rw [Defaults.update]
  split
  · next hproto _ => simp [hproto] at hname
  · next hport _ => simp [hport] at hname
  · rfl

theorem defaults_filter (xs : List Directive) :
    defaults (xs.filter fun x => !x.isEndpoint) = defaults xs := by
  suffices hfold : ∀ d, (xs.filter fun x => !x.isEndpoint).foldlM Defaults.update d =
      xs.foldlM Defaults.update d from hfold {}
  induction xs with
  | nil => exact fun d => rfl
  | cons x xs ih =>
    intro d
    rw [List.filter_cons]
    cases hx : x.isEndpoint with
    | true => simpa [update_of_isEndpoint d hx] using ih d
    | false => simp [ih]

/-- Without a directive for the port there are defaults. -/
theorem exists_defaults (h : ∀ x ∈ xs, x.name ≠ "port") : ∃ d, defaults xs = .ok d :=
  exists_defaults_iff.2 fun x hx hport => absurd hport (h x hx)

theorem exists_connection_iff (d : Defaults) (args : List String) :
    (∃ c, connection d args = .ok c) ↔
      args ≠ [] ∧ ∀ s, args[1]? = some s → (Port.ofText? s).isSome := by
  cases args with
  | nil => simp [connection]
  | cons host rest =>
    simp only [connection, List.getElem?_cons_succ]
    cases rest[0]? with
    | none => simp
    | some port =>
      simp [exists_bind_eq_ok_iff, Port.ofText_eq_ok_iff, Option.isSome_iff_exists]

theorem exists_route_iff (args : List String) : (∃ r, route args = .ok r) ↔ args ≠ [] := by
  cases args <;> simp [route]

/-- Directives can be told apart exactly when each of them can be read. -/
theorem exists_parts_iff (d : Defaults) : (∃ p, parts d xs = .ok p) ↔
    ∀ x ∈ xs, (x.name = "remote" → ∃ c, connection d x.args = .ok c) ∧
      (x.name = "route" → ∃ r, route x.args = .ok r) := by
  induction xs with
  | nil => exact iff_of_true ⟨{}, rfl⟩ (List.forall_mem_nil _)
  | cons x xs ih =>
    rw [List.forall_mem_cons, ← ih, parts]
    split
    · next hname => simp [hname, exists_bind_eq_ok_iff]
    · split
      · next hname => simp [hname, exists_bind_eq_ok_iff]
      · next hremote hroute => simp [hremote, hroute, exists_bind_eq_ok_iff]

/-- Every connection comes of a remote and every route of a directive for one, in order. -/
theorem of_parts (h : parts d xs = .ok p) :
    (xs.filter Directive.isRemote).map (fun x => connection d x.args) = p.connections.map .ok ∧
      (xs.filter Directive.isRoute).map (fun x => route x.args) = p.routes.map .ok := by
  induction xs generalizing p with
  | nil =>
    obtain rfl : {} = p := by simpa [parts] using h
    exact ⟨rfl, rfl⟩
  | cons x xs ih =>
    rw [parts] at h
    split at h
    · next hname =>
      obtain ⟨c, hc, h⟩ := bind_eq_ok_iff.1 h
      obtain ⟨rest, hrest, h⟩ := bind_eq_ok_iff.1 h
      cases h
      simpa [Directive.isRemote, Directive.isRoute, hname, hc] using ih hrest
    · split at h
      · next hname =>
        obtain ⟨r, hr, h⟩ := bind_eq_ok_iff.1 h
        obtain ⟨rest, hrest, h⟩ := bind_eq_ok_iff.1 h
        cases h
        simpa [Directive.isRemote, Directive.isRoute, hname, hr] using ih hrest
      · next hremote hroute =>
        obtain ⟨rest, hrest, h⟩ := bind_eq_ok_iff.1 h
        cases h
        simpa [Directive.isRemote, Directive.isRoute, hremote, hroute] using ih hrest

/-! ### Profiles -/

/-- When there is a profile, and which: an obfuscated tunnel has the connection to its bridge
instead of those of the text, and it alone keeps the options. -/
theorem profile_eq_ok_iff {options : Option ObfuscationOptions} {t : Transport} {r : Profile} :
    c.profile options t = .ok r ↔ ∃ d p, defaults c.directives = .ok d ∧
      parts d c.directives = .ok p ∧ (t.isPluggable → options.isSome) ∧ r = {
        transport := t
        isPluggable := t.isPluggable
        connections := if t.isPluggable then (options.map Connection.obfuscated).toList
          else p.connections
        routes := p.routes
        directives := p.others
        blocks := c.blocks
        options := if t.isPluggable then options else none
        text := c.text } := by
  simp only [profile, bind_eq_ok_iff]
  constructor
  · rintro ⟨d, hd, p, hp, h⟩
    refine ⟨d, p, hd, hp, ?_⟩
    cases ht : t.isPluggable with
    | false =>
      rw [ht] at h
      exact ⟨nofun, (Except.ok.inj h).symm⟩
    | true =>
      rw [ht] at h
      cases options with
      | none => cases h
      | some o => exact ⟨fun _ => rfl, (Except.ok.inj h).symm⟩
  · rintro ⟨d, p, hd, hp, hoptions, rfl⟩
    refine ⟨d, hd, p, hp, ?_⟩
    cases ht : t.isPluggable with
    | false => simp
    | true =>
      obtain ⟨o, rfl⟩ := Option.isSome_iff_exists.1 (hoptions ht)
      simp

/-- There is a profile exactly when every directive is good on its own and, for a pluggable
transport, the obfuscation client is told of a bridge. -/
theorem exists_profile_iff {options : Option ObfuscationOptions} {t : Transport} :
    (∃ r, c.profile options t = .ok r) ↔
      (∀ x ∈ c.directives, x.IsConvertible) ∧ (t.isPluggable → options.isSome) := by
  constructor
  · rintro ⟨r, hr⟩
    obtain ⟨d, p, hd, hp, hoptions, -⟩ := profile_eq_ok_iff.1 hr
    refine ⟨fun x hx => ?_, hoptions⟩
    obtain ⟨hremote, hroute⟩ := (exists_parts_iff d).1 ⟨p, hp⟩ x hx
    exact ⟨fun h => (exists_connection_iff d x.args).1 (hremote h),
      fun h => (exists_route_iff x.args).1 (hroute h), exists_defaults_iff.1 ⟨d, hd⟩ x hx⟩
  · rintro ⟨h, hoptions⟩
    obtain ⟨d, hd⟩ := exists_defaults_iff.2 fun x hx => (h x hx).2.2
    obtain ⟨p, hp⟩ := (exists_parts_iff d).2 fun x hx =>
      ⟨fun hname => (exists_connection_iff d x.args).2 ((h x hx).1 hname),
        fun hname => (exists_route_iff x.args).2 ((h x hx).2.1 hname)⟩
    exact ⟨_, profile_eq_ok_iff.2 ⟨d, p, hd, hp, hoptions, rfl⟩⟩

/-- The profile for plain OpenVPN, which takes no options. -/
theorem profile_openvpn_eq_ok_iff {options : Option ObfuscationOptions} {r : Profile} :
    c.profile options .openvpn = .ok r ↔ ∃ d p, defaults c.directives = .ok d ∧
      parts d c.directives = .ok p ∧ r = {
        transport := .openvpn
        isPluggable := false
        connections := p.connections
        routes := p.routes
        directives := p.others
        blocks := c.blocks
        options := none
        text := c.text } := by
  rw [profile_eq_ok_iff]
  simp [Transport.isPluggable]

/-- A profile knows its transport. -/
theorem transport_of_profile {options : Option ObfuscationOptions} {t : Transport} {r : Profile}
    (h : c.profile options t = .ok r) : r.transport = t ∧ r.isPluggable = t.isPluggable := by
  obtain ⟨d, p, -, -, -, rfl⟩ := profile_eq_ok_iff.1 h
  exact ⟨rfl, rfl⟩

/-- A profile keeps the blocks of its configuration and all directives but remotes and routes. -/
theorem of_profile {options : Option ObfuscationOptions} {t : Transport} {r : Profile}
    (h : c.profile options t = .ok r) :
    r.directives = c.directives.filter (fun x => !x.isEndpoint) ∧ r.blocks = c.blocks := by
  obtain ⟨d, p, -, hp, -, rfl⟩ := profile_eq_ok_iff.1 h
  exact ⟨others_of_parts hp, rfl⟩

end Config

end VpnDirectory
