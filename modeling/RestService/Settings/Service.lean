import RestService.Collection.Memory
import RestService.Http.Endpoint
import RestService.Pipeline.Build
import RestService.Settings.Reading

set_option autoImplicit false

namespace RestService.Settings

def blueprint (s : Settings) : Blueprint Stores where
  collections := s.collections
  actions := Stores.collection
  charsets := s.charsets
  publicUrl? := s.publicUrl?

def endpoint (s : Settings) : Except BuildError (Endpoint Stores) :=
  s.blueprint.build.map fun app => { app, maxBody := s.maxBody }

end RestService.Settings
