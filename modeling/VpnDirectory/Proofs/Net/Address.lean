import Mathlib.Data.List.TakeDrop
import VpnDirectory.Net.Address
import VpnDirectory.Proofs.Text.Visible

/-!
# Characters of an address

An address of either version is made of visible characters: each of its readers takes off
characters that are visible, `Address.Takes`, and a whole address is taken off to its end.
-/

namespace VpnDirectory.Address

open Text (isVisible)

/-- What is taken off the front of the characters is visible. -/
def Takes (cs rest : List Char) : Prop := ∃ front, cs = front ++ rest ∧ ∀ c ∈ front, isVisible c

variable {c : Char} {cs rest : List Char} {s : String}

theorem Takes.refl (cs : List Char) : Takes cs cs := ⟨[], rfl, by simp⟩

theorem Takes.trans {ds : List Char} (h : Takes cs ds) (h' : Takes ds rest) : Takes cs rest := by
  obtain ⟨a, rfl, ha⟩ := h
  obtain ⟨b, rfl, hb⟩ := h'
  refine ⟨a ++ b, (List.append_assoc a b rest).symm, ?_⟩
  rw [List.forall_mem_append]
  exact ⟨ha, hb⟩

/-- What is taken off to the end is all visible. -/
theorem Takes.visible (h : Takes cs []) : ∀ c ∈ cs, isVisible c := by
  obtain ⟨front, rfl, hfront⟩ := h
  rwa [List.append_nil]

theorem takes_dropWhile {p : Char → Bool} (hp : ∀ c, p c → isVisible c) (cs : List Char) :
    Takes cs (cs.dropWhile p) :=
  ⟨cs.takeWhile p, List.takeWhile_append_dropWhile.symm,
    fun c hc => hp c (List.mem_takeWhile_imp hc)⟩

theorem takes_of_skip (hc : isVisible c) (h : skip c cs = some rest) : Takes cs rest := by
  cases cs with
  | nil => cases h
  | cons d ds =>
    rw [skip, Option.ite_none_right_eq_some] at h
    obtain ⟨rfl, h⟩ := h
    cases h
    exact ⟨[c], rfl, by simpa using hc⟩

/-! ### Version 4 -/

theorem takes_of_readOctet (h : readOctet cs = some rest) : Takes cs rest := by
  rw [readOctet, List.span_eq_takeWhile_dropWhile] at h
  obtain ⟨-, h⟩ := Option.ite_none_right_eq_some.1 h
  cases h
  exact takes_dropWhile (fun _ => Text.isVisible_of_isDigit) cs

/-- A number and the dot after it. -/
theorem takes_of_readOctet_skip {f : List Char → Option (List Char)}
    (hf : ∀ {ds}, f ds = some rest → Takes ds rest)
    (h : (readOctet cs >>= fun ds => skip '.' ds >>= f) = some rest) : Takes cs rest := by
  obtain ⟨a, ha, h⟩ := Option.bind_eq_some_iff.1 h
  obtain ⟨b, hb, h⟩ := Option.bind_eq_some_iff.1 h
  exact (takes_of_readOctet ha).trans ((takes_of_skip (by decide) hb).trans (hf h))

theorem takes_of_readIPv4 (h : readIPv4 cs = some rest) : Takes cs rest :=
  takes_of_readOctet_skip (takes_of_readOctet_skip (takes_of_readOctet_skip takes_of_readOctet)) h

theorem visible_of_isIPv4 (h : isIPv4 s) : ∀ c ∈ s.toList, isVisible c :=
  (takes_of_readIPv4 (by simpa [isIPv4] using h)).visible

/-! ### Version 6 -/

theorem takes_of_readGroup (h : readGroup cs = some rest) : Takes cs rest := by
  rw [readGroup, List.span_eq_takeWhile_dropWhile] at h
  obtain ⟨-, h⟩ := Option.ite_none_left_eq_some.1 h
  cases h
  exact takes_dropWhile (fun _ => Text.isVisible_of_isHexDigit) cs

theorem takes_readGroups (room : Nat) (first : Bool) (cs : List Char) :
    Takes cs (readGroups room first cs).rest := by
  induction room generalizing first cs with
  | zero => exact .refl cs
  | succ room ih =>
    rw [readGroups]
    split
    · exact .refl cs
    · next start hstart =>
      -- a group has a colon before it, unless it is the first one
      have hcolon : Takes cs start := by
        split at hstart
        · cases hstart
          exact .refl cs
        · exact takes_of_skip (by decide) hstart
      split
      · next rest hv4 =>
        split at hv4
        · exact hcolon.trans (takes_of_readIPv4 hv4)
        · cases hv4
      · split
        · exact .refl cs
        · next rest hgroup => exact hcolon.trans ((takes_of_readGroup hgroup).trans (ih false rest))

theorem takes_of_readIPv6 (h : readIPv6 cs = some rest) : Takes cs rest := by
  have hfront := takes_readGroups 8 true cs
  rw [readIPv6] at h
  split at h
  · cases h
    exact hfront
  · split at h
    · cases h
    · obtain ⟨a, ha, h⟩ := Option.bind_eq_some_iff.1 h
      obtain ⟨b, hb, h⟩ := Option.bind_eq_some_iff.1 h
      cases h
      have hcolons := (takes_of_skip (by decide) ha).trans (takes_of_skip (by decide) hb)
      exact hfront.trans (hcolons.trans (takes_readGroups _ true b))

theorem visible_of_isIPv6 (h : isIPv6 s) : ∀ c ∈ s.toList, isVisible c :=
  (takes_of_readIPv6 (by simpa [isIPv6] using h)).visible

theorem visible_of_isAddress (h : isAddress s) : ∀ c ∈ s.toList, isVisible c := by
  rw [isAddress, Bool.or_eq_true] at h
  rcases h with h | h
  · exact visible_of_isIPv4 h
  · exact visible_of_isIPv6 h

end VpnDirectory.Address
