import EspFirmware.CommandTokens
import EspFirmware.HeaterControl
import EspFirmware.Locator
import EspFirmware.PowerCut

/-!
# Numeric parameters

The drivers clamp their parameters, or refuse what is too large, but they are
given a `uint8`: of the number which `atoi` has read, only the remainder
modulo 256 arrives.
-/

namespace EspFirmware

open Library

/-! ## Numerals -/

/-- The value of decimal digits. -/
def decimalValue (digits : List UInt8) : Nat :=
  digits.foldl (fun value byte => value * 10 + (byte.toNat - 48)) 0

/-- A decimal numeral, perhaps with leading zeros, whose value is an `int`. -/
structure Numeral where
  digits : List UInt8
  nonempty : digits ≠ []
  decimal : ∀ byte ∈ digits, 48 ≤ byte ∧ byte ≤ 57
  small : decimalValue digits < 2 ^ 31

namespace Numeral

/-- The value of a numeral. -/
def value (number : Numeral) : Nat :=
  decimalValue number.digits

theorem nonzero (number : Numeral) :
    0 ∉ number.digits := by
  intro member
  exact absurd (number.decimal 0 member).1 (by decide)

theorem unseparated (number : Numeral) :
    semicolon ∉ number.digits := by
  intro member
  exact absurd (number.decimal semicolon member).2 (by decide)

end Numeral

theorem digitsValue_eq
    {digits : List UInt8}
    (decimal : ∀ byte ∈ digits, 48 ≤ byte ∧ byte ≤ 57) (value : Nat) :
    digitsValue value digits =
      ((digits.foldl
        (fun value byte => value * 10 + (byte.toNat - 48)) value : Nat) :
        Int) := by
  induction digits generalizing value with
  | nil =>
      rfl
  | cons byte rest induction =>
      have digit := decimal byte List.mem_cons_self
      have big : 48 ≤ byte.toNat := UInt8.le_iff_toNat_le.mp digit.1
      have shifted :
          (value : Int) * 10 + ((byte.toNat : Int) - 48) =
            ((value * 10 + (byte.toNat - 48) : Nat) : Int) := by
        omega
      rw [digitsValue, if_pos (by simp [digit]), List.foldl_cons, shifted]
      exact induction (fun other member => decimal other (.tail _ member)) _

/-- `atoi` reads a numeral. -/
theorem Numeral.atoi_digits (number : Numeral) :
    atoi number.digits = number.value := by
  have decimal := number.decimal
  have value := digitsValue_eq decimal 0
  rw [Numeral.value, decimalValue]
  cases shape : number.digits with
  | nil =>
      exact absurd shape number.nonempty
  | cons byte rest =>
      rw [shape] at decimal value
      have digit := decimal byte List.mem_cons_self
      have high : 48 ≤ byte.toNat := UInt8.le_iff_toNat_le.mp digit.1
      have space : isspace byte = false := by
        have notBlank : byte ≠ 32 := by
          rintro rfl
          exact absurd high (by decide)
        have notControl : ¬byte ≤ 13 := by
          rw [UInt8.le_iff_toNat_le]
          exact fun low => absurd (Nat.le_trans high low) (by decide)
        simp [isspace, notBlank, notControl]
      have minus : byte ≠ 45 := by
        rintro rfl
        exact absurd high (by decide)
      have plus : byte ≠ 43 := by
        rintro rfl
        exact absurd high (by decide)
      rw [atoi, List.dropWhile_cons_of_neg (by simp [space])]
      simp only [if_neg minus, if_neg plus]
      exact value

/-- What arrives of a number is its remainder. -/
theorem Numeral.toNat_atoiByte (number : Numeral) :
    (atoiByte number.digits).toNat = number.value % 256 := by
  have remainder :
      ((number.value : Int) % 2 ^ 8).toNat = number.value % 2 ^ 8 := by
    omega
  rw [atoiByte, number.atoi_digits, UInt8.ofInt, remainder,
    UInt8.toNat_ofNat', Nat.mod_mod]
  rfl

/-! ## Limits -/

/-- A clamp of the remainder is a clamp of the number, except where the remainder is small. -/
theorem min_remainder_iff
    {value limit : Nat}
    (narrow : limit ≤ 256) :
    min (value % 256) limit = min value limit ↔
      value < limit ∨ limit ≤ value % 256 := by
  omega

theorem toNat_clampPower (val : UInt8) :
    (Locator.clampPower val).toNat = min val.toNat 82 := by
  rw [Locator.clampPower]
  split
  · rename_i large
    have high : 82 ≤ val.toNat := UInt8.le_iff_toNat_le.mp large
    rw [Nat.min_eq_right high]
    rfl
  · rename_i small
    have low : ¬82 ≤ val.toNat := fun high =>
      small (UInt8.le_iff_toNat_le.mpr high)
    rw [Nat.min_eq_left (by omega)]

theorem toNat_lightingDim (drivers : Drivers) (intensity : UInt8) :
    (drivers.lightingDim intensity).intensityC.toNat =
      min intensity.toNat 100 := by
  rw [Drivers.lightingDim]
  dsimp only
  split
  · rename_i large
    have high : 100 < intensity.toNat := UInt8.lt_iff_toNat_lt.mp large
    rw [Nat.min_eq_right (Nat.le_of_lt high)]
    rfl
  · rename_i small
    have low : ¬100 < intensity.toNat := fun high =>
      small (UInt8.lt_iff_toNat_lt.mpr high)
    rw [Nat.min_eq_left (by omega)]

/-! ## Commands as they are sent -/

/-- Bytes are received in one segment, and the command in them is run. -/
def CommandReceived
    (flash : Flash) (camera : Camera) (conn : Conn) (bytes : List UInt8)
    (input : CommandInput) (run : CommandRun) : Prop :=
  ∃ segment : Segment, ∃ address command,
    segment.bytes = bytes ∧
      (tcpparserProcessData (segment.copy address).bytes).2 =
          some command ∧
        runCommand flash camera conn command input = some run

theorem CommandReceived.ran
    {flash : Flash} {camera : Camera} {conn : Conn}
    {cmd params : List UInt8} {input : CommandInput} {run : CommandRun}
    (received :
      CommandReceived flash camera conn (cmd ++ colon :: params) input run)
    (cmdNonzero : 0 ∉ cmd)
    (cmdFree : colon ∉ cmd)
    (paramsNonzero : 0 ∉ params) :
    runCommand flash camera conn (tcpCommandOf cmd params) input =
      some run := by
  rcases received with ⟨segment, address, command, sent, parsed, ran⟩
  have nonzero : 0 ∉ segment.bytes := by
    rw [sent, List.mem_append, List.mem_cons, not_or, not_or]
    exact ⟨cmdNonzero, colon_ne_zero.symm, paramsNonzero⟩
  have text : segment.text = cmd ++ colon :: params :=
    (before_of_not_mem nonzero).trans sent
  rw [tcpparserProcessData_eq (segment.copy_pointsTo address), text,
    before_append cmdFree, after_append cmdFree, Option.some.injEq] at parsed
  rw [parsed]
  exact ran

/-! ## What each command does -/

section

variable
    {flash : Flash} {camera : Camera} {conn : Conn} {input : CommandInput}
    {run : CommandRun}

/-- A command for a device which is not a camera, when its configuration is read. -/
theorem CommandReceived.performAll
    {cmd params : List UInt8} {type : DeviceType}
    (typed : storedType flash = some type)
    (other : type ≠ .camera)
    (loaded : input.load.Succeed (storedLen flash))
    (ran : runDevice flash camera conn cmd params input = some run)
    (drivers : Drivers) :
    drivers.performAll run.effects =
      drivers.performAll (deviceEffects (some type) cmd params) := by
  cases deviceRan_of_run ran with
  | absent missing =>
      rw [loaded.1] at missing
      rw [storedType, missing] at typed
      cases typed
  | unread failed =>
      exact absurd loaded failed
  | camera isCamera =>
      rw [typed, Option.some.injEq] at isCamera
      exact absurd isCamera other
  | driver =>
      rw [Drivers.performAll_append, Drivers.performAll_append,
        Drivers.performAll_drivesNothing _
          (drivesNothing_of_heap
            (DeviceConfig.readConfig_heap flash input.load.read)),
        Drivers.performAll_drivesNothing _ (drivesNothing_osFree _), typed]

/-- The intensity which is stored for a numeral. -/
theorem intensity_of_lightingSet
    {number : Numeral}
    (lighting : storedType flash = some .lighting)
    (loaded : input.load.Succeed (storedLen flash))
    (received :
      CommandReceived flash camera conn
        (ascii "Lighting Set" ++ colon :: number.digits) input run)
    (drivers : Drivers) :
    (drivers.performAll run.effects).intensityC.toNat =
      min (number.value % 256) 100 := by
  have ran := received.ran (by decide) (by decide) number.nonzero
  have command :
      tcpCommandOf (ascii "Lighting Set") number.digits =
        .device (ascii "Lighting Set") number.digits := by
    rw [tcpCommandOf]
    repeat rw [if_neg (by decide)]
  rw [command] at ran
  have effects :
      deviceEffects (some .lighting) (ascii "Lighting Set") number.digits =
        [.lightingDim (atoiByte number.digits)] := by
    rw [deviceEffects, if_neg (by decide), if_pos rfl]
  rw [CommandReceived.performAll lighting (by decide) loaded ran, effects]
  exact
    (toNat_lightingDim drivers _).trans
      (congrArg (min · 100) number.toNat_atoiByte)

/-- The locator after the effects of a command. -/
def locatorAfter (now : Nat) (locator : Locator) (run : CommandRun) :
    Locator :=
  locator.performAll now (run.effects.flatMap CommandEffect.locatorActions)

/-- The power values which are stored for two numerals. -/
theorem powers_of_power
    {high low : Numeral}
    (received :
      CommandReceived flash camera conn
        (ascii "Power" ++ colon :: (high.digits ++ semicolon :: low.digits))
        input run)
    (now : Nat) (locator : Locator) :
    (locatorAfter now locator run).highPowerValue.toNat =
        min (high.value % 256) 82 ∧
      (locatorAfter now locator run).lowPowerValue.toNat =
        min (low.value % 256) 82 := by
  have paramsNonzero : 0 ∉ high.digits ++ semicolon :: low.digits := by
    rw [List.mem_append, List.mem_cons, not_or, not_or]
    exact ⟨high.nonzero, semicolon_ne_zero.symm, low.nonzero⟩
  have ran := received.ran (by decide) (by decide) paramsNonzero
  have command :
      tcpCommandOf (ascii "Power") (high.digits ++ semicolon :: low.digits) =
        .power high.digits low.digits := by
    rw [tcpCommandOf, before_append high.unseparated,
      after_append high.unseparated]
    repeat rw [if_neg (by decide)]
    rw [if_pos rfl]
  have effects :
      powerEffects high.digits low.digits =
        [.locatorSetHighPower (atoiByte high.digits),
          .locatorSetLowPower (atoiByte low.digits),
          .sendReply (ascii "Power Set")] := by
    have highDigit := high.decimal
    have lowDigit := low.decimal
    cases highShape : high.digits with
    | nil =>
        exact absurd highShape high.nonempty
    | cons first highRest =>
        cases lowShape : low.digits with
        | nil =>
            exact absurd lowShape low.nonempty
        | cons second lowRest =>
            rw [highShape] at highDigit
            rw [lowShape] at lowDigit
            have firstDigit := highDigit first List.mem_cons_self
            have secondDigit := lowDigit second List.mem_cons_self
            rw [powerEffects, if_neg]
            simp only [Bool.or_eq_true, decide_eq_true_eq, not_or,
              UInt8.not_lt]
            exact ⟨firstDigit, secondDigit⟩
  rw [command, runCommand, Option.some.injEq] at ran
  subst ran
  rw [locatorAfter, effects]
  constructor
  · exact
      (toNat_clampPower _).trans (congrArg (min · 82) high.toNat_atoiByte)
  · exact
      (toNat_clampPower _).trans (congrArg (min · 82) low.toNat_atoiByte)

/-- A command starts an exchange with the camera: it creates a receive buffer. -/
def StartsExchange (before after : Camera) : Prop :=
  before.uart.created < after.uart.created

/-- Bytes create no buffers. -/
theorem Camera.created_receiveAll (camera : Camera) (arrivals : List Arrival) :
    (camera.receiveAll arrivals).uart.created = camera.uart.created := by
  refine
    @receiveAll_keeps
      (fun after => after.uart.created = camera.uart.created)
      ?_ camera rfl arrivals
  intro before arrival same
  have received := Uart.received_receive before.uart arrival.byte
  have step := receive_cases before arrival
  generalize before.receive arrival = after at step
  cases step with
  | silent | completed =>
      exact received.created.trans same

/-- What a request for an image size does, when there is memory for its response. -/
theorem Camera.request_imageSizeSet
    {after : Camera} {size : UInt8} {requestInput : RequestInput}
    {reply : Option (List UInt8)}
    (free : camera.busy = false)
    (granted : requestInput.exchange.create.grants 5 = true)
    (returned :
      camera.request (.imageSizeSet size) conn requestInput =
        some (after, reply)) :
    (StartsExchange camera after ↔ size ≤ 2) ∧
      (2 < size → reply = some (ascii "Camera Image Size Set Fail")) := by
  have unlocked : ¬camera.busy = true := by
    rw [free]
    exact Bool.false_ne_true
  rw [request, if_neg unlocked] at returned
  simp only [simpleRequest, Option.map_eq_some_iff] at returned
  rcases returned with ⟨⟨exchangedTo, outcome⟩, call, pair⟩
  rcases exchangeWith_eq_some call with ⟨called, rfl⟩
  rw [Prod.mk.injEq] at pair
  rcases pair with ⟨rfl, rfl⟩
  have created :
      ({ camera with busy := true }.receiveAll
          requestInput.entered).uart.created =
        camera.uart.created :=
    created_receiveAll _ _
  have accepts :
      (SyncCommand.setImageSize size).granted requestInput.exchange =
        decide (size ≤ 2) := by
    have responseSize :
        (SyncCommand.setImageSize size).exchange.responseSize = 5 := rfl
    rw [SyncCommand.granted, responseSize, granted, Bool.and_true]
    rfl
  cases SyncCommand.effect called with
  | unchanged refused failed same =>
      rw [accepts, decide_eq_false_iff_not] at refused
      refine ⟨iff_of_false ?_ refused, ?_⟩
      · change ¬camera.uart.created < outcome.uart.created
        rw [same, created]
        exact Nat.lt_irrefl _
      · intro _
        rw [replyText, if_neg failed]
  | exchanged accepted concluded _ =>
      rw [accepts, decide_eq_true_eq] at accepted
      refine ⟨iff_of_true ?_ accepted, ?_⟩
      · change camera.uart.created < outcome.uart.created
        rw [concluded.destroyed.created, ← created]
        exact Nat.lt_succ_self _
      · intro large
        exact absurd accepted (UInt8.not_le.mpr large)

/-- What becomes of the numeral in a request for an image size. -/
theorem exchange_of_imageSizeSet
    {number : Numeral}
    (isCamera : storedType flash = some .camera)
    (loaded : input.load.Succeed (storedLen flash))
    (free : camera.busy = false)
    (granted : input.camera.exchange.create.grants 5 = true)
    (received :
      CommandReceived flash camera conn
        (ascii "Camera Image Size Set" ++ colon :: number.digits) input
        run) :
    (StartsExchange camera run.camera ↔ number.value % 256 ≤ 2) ∧
      (2 < number.value % 256 →
        repliesOf run.effects = [ascii "Camera Image Size Set Fail"]) := by
  have ran := received.ran (by decide) (by decide) number.nonzero
  have command :
      tcpCommandOf (ascii "Camera Image Size Set") number.digits =
        .device (ascii "Camera Image Size Set") number.digits := by
    rw [tcpCommandOf]
    repeat rw [if_neg (by decide)]
  rw [command] at ran
  have request :
      cameraRequest (ascii "Camera Image Size Set") number.digits =
        .imageSizeSet (atoiByte number.digits) := by
    rw [cameraRequest]
    repeat rw [if_neg (by decide)]
    rw [if_pos rfl]
  cases deviceRan_of_run ran with
  | absent missing =>
      rw [loaded.1] at missing
      rw [storedType, missing] at isCamera
      cases isCamera
  | unread failed =>
      exact absurd loaded failed
  | driver other =>
      exact absurd isCamera other
  | camera _ _ returned =>
      rw [request] at returned
      have result := Camera.request_imageSizeSet free granted returned
      rw [UInt8.le_iff_toNat_le, UInt8.lt_iff_toNat_lt,
        number.toNat_atoiByte] at result
      refine ⟨result.1, ?_⟩
      intro large
      rw [repliesOf_append, repliesOf_append, repliesOf_configEffects,
        repliesOf_configEffects, repliesOf_sendReply, List.nil_append,
        List.append_nil, result.2 large]
      rfl

/-! ## Limits of the full value -/

/-- An image size starts an exchange exactly up to 2, and a larger one is refused. -/
structure ImageSizeLimited
    (value : Nat) (before : Camera) (run : CommandRun) : Prop where
  started : StartsExchange before run.camera ↔ value ≤ 2
  refused :
    2 < value →
      repliesOf run.effects = [ascii "Camera Image Size Set Fail"]

/--
The drivers limit a parameter by its full value exactly if it is not out of
range, or its remainder modulo 256 is out of range as well.
-/
theorem numeric_parameters_limited_iff
    (flash : Flash) (camera : Camera) (conn : Conn) (input : CommandInput)
    (run : CommandRun) (number other : Numeral) :
    (CommandReceived flash camera conn
        (ascii "Lighting Set" ++ colon :: number.digits) input run →
      storedType flash = some .lighting →
        input.load.Succeed (storedLen flash) →
          ∀ drivers : Drivers,
            (drivers.performAll run.effects).intensityC.toNat =
                min number.value 100 ↔
              number.value < 100 ∨ 100 ≤ number.value % 256) ∧
    (CommandReceived flash camera conn
        (ascii "Power" ++
          colon :: (number.digits ++ semicolon :: other.digits))
        input run →
      ∀ now locator,
        ((locatorAfter now locator run).highPowerValue.toNat =
              min number.value 82 ↔
            number.value < 82 ∨ 82 ≤ number.value % 256) ∧
          ((locatorAfter now locator run).lowPowerValue.toNat =
              min other.value 82 ↔
            other.value < 82 ∨ 82 ≤ other.value % 256)) ∧
    (CommandReceived flash camera conn
        (ascii "Camera Image Size Set" ++ colon :: number.digits) input run →
      storedType flash = some .camera →
        input.load.Succeed (storedLen flash) →
          camera.busy = false →
            input.camera.exchange.create.grants 5 = true →
              (ImageSizeLimited number.value camera run ↔
                number.value ≤ 2 ∨ 2 < number.value % 256)) := by
  refine ⟨?_, ?_, ?_⟩
  · intro received lighting loaded drivers
    rw [intensity_of_lightingSet lighting loaded received]
    exact min_remainder_iff (by decide)
  · intro received now locator
    have powers := powers_of_power received now locator
    rw [powers.1, powers.2]
    exact ⟨min_remainder_iff (by decide), min_remainder_iff (by decide)⟩
  · intro received isCamera loaded free granted
    have exchange :=
      exchange_of_imageSizeSet isCamera loaded free granted received
    constructor
    · intro limited
      have same := exchange.1.symm.trans limited.started
      omega
    · intro condition
      refine ⟨exchange.1.trans ?_, ?_⟩
      · omega
      · intro large
        exact exchange.2 (by omega)

end

/-! ## A lamp that is told to be brighter than bright -/

/-- Whether all bytes are digits is decided byte by byte. -/
theorem decimal_of_all
    {digits : List UInt8}
    (all :
      digits.all (fun byte => decide (48 ≤ byte ∧ byte ≤ 57)) = true) :
    ∀ byte ∈ digits, 48 ≤ byte ∧ byte ≤ 57 := by
  intro byte member
  exact of_decide_eq_true (List.all_eq_true.mp all byte member)

/-- 255 is all of a `uint8`. -/
def number255 : Numeral where
  digits := ascii "255"
  nonempty := by decide
  decimal := decimal_of_all (by decide)
  small := by decide

/-- 256 is one more. -/
def number256 : Numeral where
  digits := ascii "256"
  nonempty := by decide
  decimal := decimal_of_all (by decide)
  small := by decide

theorem lampFlash_lighting :
    storedType lampFlash = some .lighting := by
  decide +kernel

/-- A chip on which the camera was saved. -/
def lampCameraFlash : Flash :=
  (DeviceConfig.saveConfig (fun _ => 0xFF)
    { buf := some 1, erase := .ok, write := .ok } lampCameraConfig).flash

theorem lampCameraFlash_camera :
    storedType lampCameraFlash = some .camera := by
  decide +kernel

/-- A camera that is not busy. -/
def freeCamera : Camera :=
  { Camera.boot with busy := false }

/-- A command is carried out, when nothing fails. -/
theorem exists_received
    {flash : Flash} {camera : Camera} {bytes : List UInt8}
    (short : bytes.length < 65536)
    (runs :
      (((tcpparserProcessData (bytes ++ [0])).2.bind fun command =>
        runCommand flash camera 1 command
          RxAnswers.served.input).isSome) = true) :
    ∃ run,
      CommandReceived flash camera 1 bytes RxAnswers.served.input run := by
  rcases Option.isSome_iff_exists.mp runs with ⟨run, ran⟩
  rcases Option.bind_eq_some_iff.mp ran with ⟨command, parsed, carriedOut⟩
  exact ⟨run, ⟨_, short⟩, 0, command, rfl, parsed, carriedOut⟩

/-- One more makes the light go out. -/
theorem lighting_wraps :
    ∃ bright dark,
      CommandReceived lampFlash .boot 1
          (ascii "Lighting Set" ++ colon :: number255.digits)
          RxAnswers.served.input bright ∧
        CommandReceived lampFlash .boot 1
            (ascii "Lighting Set" ++ colon :: number256.digits)
            RxAnswers.served.input dark ∧
          (Drivers.boot.performAll bright.effects).intensityC.toNat =
              min number255.value 100 ∧
            (Drivers.boot.performAll dark.effects).intensityC.toNat = 0 ∧
              min number256.value 100 = 100 := by
  have loaded :
      RxAnswers.served.input.load.Succeed (storedLen lampFlash) :=
    ⟨rfl, rfl, rfl, rfl, rfl, fun _ => ⟨rfl, rfl⟩⟩
  have executed (number : Numeral) :=
    @exists_received lampFlash .boot
      (ascii "Lighting Set" ++ colon :: number.digits)
  rcases executed number255 (by decide) (by decide +kernel) with
    ⟨bright, receivedBright⟩
  rcases executed number256 (by decide) (by decide +kernel) with
    ⟨dark, receivedDark⟩
  refine ⟨bright, dark, receivedBright, receivedDark, ?_, ?_, by decide⟩
  · rw [intensity_of_lightingSet lampFlash_lighting loaded receivedBright]
    decide
  · rw [intensity_of_lightingSet lampFlash_lighting loaded receivedDark]
    decide

theorem numeric_parameters_limited_iff_255 :
    (∃ run,
      CommandReceived lampFlash .boot 1
          (ascii "Lighting Set" ++ colon :: number255.digits)
          RxAnswers.served.input run ∧
        (Drivers.boot.performAll run.effects).intensityC.toNat =
          min number255.value 100) ∧
      (∃ run,
        CommandReceived lampFlash .boot 1
            (ascii "Power" ++
              colon :: (number255.digits ++ semicolon :: number255.digits))
            RxAnswers.served.input run ∧
          ∀ now locator,
            (locatorAfter now locator run).highPowerValue.toNat =
                min number255.value 82 ∧
              (locatorAfter now locator run).lowPowerValue.toNat =
                min number255.value 82) ∧
        ∃ run,
          CommandReceived lampCameraFlash freeCamera 1
              (ascii "Camera Image Size Set" ++ colon :: number255.digits)
              RxAnswers.served.input run ∧
            ImageSizeLimited number255.value freeCamera run := by
  refine ⟨?_, ?_, ?_⟩
  · rcases @exists_received lampFlash .boot
        (ascii "Lighting Set" ++ colon :: number255.digits)
        (by decide) (by decide +kernel) with
      ⟨run, received⟩
    refine ⟨run, received, ?_⟩
    apply ((numeric_parameters_limited_iff lampFlash .boot 1
      RxAnswers.served.input run number255 number255).1 received
        lampFlash_lighting
        ⟨rfl, rfl, rfl, rfl, rfl, fun _ => ⟨rfl, rfl⟩⟩ .boot).mpr
    exact Or.inr (by decide)
  · rcases @exists_received lampFlash .boot
        (ascii "Power" ++
          colon :: (number255.digits ++ semicolon :: number255.digits))
        (by decide) (by decide +kernel) with
      ⟨run, received⟩
    refine ⟨run, received, fun now locator => ?_⟩
    have limited :=
      (numeric_parameters_limited_iff lampFlash .boot 1
        RxAnswers.served.input run number255 number255).2.1 received now
        locator
    exact
      ⟨limited.1.mpr (Or.inr (by decide)),
        limited.2.mpr (Or.inr (by decide))⟩
  · rcases @exists_received lampCameraFlash freeCamera
        (ascii "Camera Image Size Set" ++ colon :: number255.digits)
        (by decide) (by decide +kernel) with
      ⟨run, received⟩
    refine ⟨run, received, ?_⟩
    apply ((numeric_parameters_limited_iff lampCameraFlash freeCamera 1
      RxAnswers.served.input run number255 number255).2.2 received
        lampCameraFlash_camera
        ⟨rfl, rfl, rfl, rfl, rfl, fun _ => ⟨rfl, rfl⟩⟩ rfl rfl).mpr
    exact Or.inr (by decide)

end EspFirmware
