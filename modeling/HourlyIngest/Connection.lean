import HourlyIngest.Connection.KeyValue
import HourlyIngest.Connection.Uri
import HourlyIngest.Settings

/-!
# The connection that settings describe

A connection string in the settings takes the place of their single fields.  Two parameters do not
depend on that choice: the timeout of the settings holds if the string sets none, and the name of
the program is always the same.
-/

namespace HourlyIngest

namespace Connection

/-- The name under which the program is known to the server. -/
def programName : String := "noaa-loader"

/-- The parameters that a connection string sets, in either of its forms. -/
def ofString? (text : String) : Option Parameters :=
  match afterScheme? text.toList with
  | some rest => ofUri? rest
  | none => ofKeyValues? text.toList

/-- The parameters that the single fields of the settings set. -/
def ofFields (settings : DatabaseSettings) : Parameters :=
  { hosts := [Host.ofString settings.host]
    ports := [settings.port]
    user := some settings.user
    dbname := some settings.dbname
    password := settings.password.map Text.encode }

/-- The failure of a connection string that cannot be read. -/
def invalidString : Failure :=
  .invalidSetting "invalid database url: invalid connection string"

/-- Add what does not come from the connection string. -/
def complete (settings : DatabaseSettings) (parameters : Parameters) : Parameters :=
  { parameters with
    connectTimeout := parameters.connectTimeout <|> some settings.connectTimeout
    applicationName := some programName }

end Connection

/-- The parameters of the connection that the settings describe. -/
def DatabaseSettings.connection (settings : DatabaseSettings) :
    Except Failure Connection.Parameters :=
  match settings.url with
  | none => .ok (Connection.complete settings (Connection.ofFields settings))
  | some url =>
      match Connection.ofString? url with
      | none => .error Connection.invalidString
      | some parameters => .ok (Connection.complete settings parameters)

end HourlyIngest
