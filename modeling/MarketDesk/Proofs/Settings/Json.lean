import MarketDesk.Proofs.Json.Listing
import MarketDesk.Settings.Basic
import MarketDesk.Venue.Client

/-!
# Settings that are written and read again

Written settings are read back with the same network, address and validity of a request, and with
the window of the rate limit in whole seconds. Of the keys nothing is written, so that the settings
of any two accounts that differ in their keys alone are the same text. What stands in the place of
the keys is read back as both of them.
-/

namespace MarketDesk.Settings

open MarketDesk.Json

/-- What is left of settings in their text. -/
def written (s : Settings) : Settings :=
  { s with
    credentials := ⟨redacted, redacted⟩
    rateLimitWindow := s.rateLimitWindow / nanosPerSecond * nanosPerSecond }

theorem toJson_withCredentials (s : Settings) (credentials : Credentials) :
    { s with credentials }.toJson = s.toJson := rfl

theorem rateLimitWindow_written_eq_iff (s : Settings) :
    s.written.rateLimitWindow = s.rateLimitWindow ↔ nanosPerSecond ∣ s.rateLimitWindow :=
  ⟨fun h => h ▸ Nat.dvd_mul_left .., Nat.div_mul_cancel⟩

theorem rateLimitWindow_written_le (s : Settings) :
    s.written.rateLimitWindow ≤ s.rateLimitWindow := Nat.div_mul_le_self ..

theorem written_written (s : Settings) : s.written.written = s.written := by
  have hseconds : s.rateLimitWindow / nanosPerSecond * nanosPerSecond / nanosPerSecond =
      s.rateLimitWindow / nanosPerSecond := Nat.mul_div_cancel _ (by decide)
  simp only [written, hseconds]

theorem baseUrl_tree (baseUrl : Option String) :
    Decode.optional Decode.text (match baseUrl with
      | some url => Value.string url
      | none => .null).tree = .ok baseUrl := by
  cases baseUrl <;> rfl

/-- No duration is longer than the window may be, so its seconds fit the field they are read by. -/
theorem decode_toJson {s : Settings} (h : s.rateLimitWindow < UInt64.size * nanosPerSecond) :
    decode s.toJson.tree = .ok s.written := by
  obtain ⟨seconds, hseconds⟩ :
      ∃ seconds : UInt64, seconds.toNat = s.rateLimitWindow / nanosPerSecond :=
    ⟨_, UInt64.toNat_ofNat_of_lt' (Nat.div_lt_of_lt_mul (Nat.mul_comm .. ▸ h))⟩
  have hrow : Fields.ofItems _ fields [(Value.string redacted).tree, (Value.string redacted).tree,
      (Value.bool s.testnet).tree,
      (match s.baseUrl with | some url => Value.string url | none => .null).tree,
      (Value.integer s.recvWindow.toNat).tree, (Value.integer seconds.toNat).tree] =
        .ok (redacted, redacted, s.testnet, s.baseUrl, some s.recvWindow, some seconds, ()) :=
    Fields.ofItems_cons_of_ok (text_tree _) <| Fields.ofItems_cons_of_ok (text_tree _) <|
      Fields.ofItems_cons_of_ok (bool_tree _) <|
      Fields.ofItems_cons_of_ok (baseUrl_tree s.baseUrl) <|
      Fields.ofItems_cons_of_ok (optional_uint64_tree _) <|
      Fields.ofItems_cons_of_ok (optional_uint64_tree _) rfl
  rw [hseconds] at hrow
  refine Except.bind_eq_ok_iff.mpr ⟨_, Fields.decode_listing (by decide) rfl hrow, ?_⟩
  rw [written, ← hseconds]
  rfl

/-- Written settings are read back with the same network, address and validity of a request, and
with a window of as many whole seconds. So a client of them is at the same address, and counts calls
in the same windows just if these were of whole seconds. The text is the same for all keys, and they
are read back as what stands in their place. Once read back, settings stay as they are. -/
theorem rereads_in_whole_seconds (s : Settings)
    (h : s.rateLimitWindow < UInt64.size * nanosPerSecond) :
    ∃ r, decode.run s.toJson.text = .ok r ∧
      r.testnet = s.testnet ∧ r.baseUrl = s.baseUrl ∧ r.recvWindow = s.recvWindow ∧
      r.rateLimitWindow = s.rateLimitWindow / nanosPerSecond * nanosPerSecond ∧
      (Client.ofSettings r).baseUrl = (Client.ofSettings s).baseUrl ∧
      ((Client.ofSettings r).limiter = (Client.ofSettings s).limiter ↔
        nanosPerSecond ∣ s.rateLimitWindow) ∧
      r.credentials = ⟨redacted, redacted⟩ ∧
      (∀ credentials, { s with credentials }.toJson.text = s.toJson.text) ∧
      decode.run r.toJson.text = .ok r := by
  have hread : decode.run s.toJson.text = .ok s.written := decode.run_text _ (decode_toJson h)
  have hlimiter : (Client.ofSettings s.written).limiter = (Client.ofSettings s).limiter ↔
      nanosPerSecond ∣ s.rateLimitWindow := by
    rw [← s.rateLimitWindow_written_eq_iff]
    exact ⟨congrArg RateLimiter.length, congrArg RateLimiter.ofLength⟩
  have hagain : decode.run s.written.toJson.text = .ok s.written := by
    have hrange := Nat.lt_of_le_of_lt s.rateLimitWindow_written_le h
    rw [decode.run_text _ (decode_toJson hrange), written_written]
  exact ⟨s.written, hread, rfl, rfl, rfl, rfl, rfl, hlimiter, rfl,
    fun credentials => congrArg Value.text (s.toJson_withCredentials credentials), hagain⟩

/-- The longest window that there is, with an address that has to be quoted. -/
theorem rereads_in_whole_seconds_longest :
    let s : Settings := ⟨⟨"key", "secret"⟩, false, some "http://\"desk\\\u0007", 0,
      18446744073709551615999999999⟩
    s.rateLimitWindow < UInt64.size * nanosPerSecond ∧
      ∃ r, decode.run s.toJson.text = .ok r ∧ r.baseUrl = s.baseUrl ∧ r.recvWindow = 0 ∧
        r.rateLimitWindow = 18446744073709551615000000000 ∧
        (Client.ofSettings r).limiter ≠ (Client.ofSettings s).limiter := by
  intro s
  have hrange : s.rateLimitWindow < UInt64.size * nanosPerSecond := by decide
  obtain ⟨r, hread, -, hurl, hrecv, hwindow, -, hlimiter, -⟩ := s.rereads_in_whole_seconds hrange
  exact ⟨hrange, r, hread, hurl, hrecv, hwindow.trans (by decide), mt hlimiter.mp (by decide)⟩

/-- Settings without keys, and with half a second in their window, are read back with the text that
stands for keys and without the half second. -/
theorem readOnly_rereads_with_credentials :
    let s : Settings := { readOnly with rateLimitWindow := 1500000000 }
    ∃ r, decode.run s.toJson.text = .ok r ∧ r.rateLimitWindow ≠ s.rateLimitWindow ∧
      s.hasCredentials = false ∧ r.hasCredentials = true := by
  intro s
  have hrange : s.rateLimitWindow < UInt64.size * nanosPerSecond := by decide
  exact ⟨s.written, decode.run_text _ (decode_toJson hrange), by decide, by decide, by decide⟩

end MarketDesk.Settings
