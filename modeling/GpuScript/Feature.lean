import GpuScript.SortedTable

/-!
# Device features

The optional features of a device that a script can require, each by its name.
-/

namespace GpuScript

/-- An optional feature of a device. -/
inductive Feature where
  | robustBufferAccess
  | fullDrawIndexUint32
  | imageCubeArray
  | independentBlend
  | geometryShader
  | tessellationShader
  | sampleRateShading
  | dualSrcBlend
  | logicOp
  | multiDrawIndirect
  | drawIndirectFirstInstance
  | depthClamp
  | depthBiasClamp
  | fillModeNonSolid
  | depthBounds
  | wideLines
  | largePoints
  | alphaToOne
  | multiViewport
  | samplerAnisotropy
  | textureCompressionEtc2
  | textureCompressionAstcLdr
  | textureCompressionBc
  | occlusionQueryPrecise
  | pipelineStatisticsQuery
  | vertexPipelineStoresAndAtomics
  | fragmentStoresAndAtomics
  | shaderTessellationAndGeometryPointSize
  | shaderImageGatherExtended
  | shaderStorageImageExtendedFormats
  | shaderStorageImageMultisample
  | shaderStorageImageReadWithoutFormat
  | shaderStorageImageWriteWithoutFormat
  | shaderUniformBufferArrayDynamicIndexing
  | shaderSampledImageArrayDynamicIndexing
  | shaderStorageBufferArrayDynamicIndexing
  | shaderStorageImageArrayDynamicIndexing
  | shaderClipDistance
  | shaderCullDistance
  | shaderFloat64
  | shaderInt64
  | shaderInt16
  | shaderResourceResidency
  | shaderResourceMinLod
  | sparseBinding
  | sparseResidencyBuffer
  | sparseResidencyImage2D
  | sparseResidencyImage3D
  | sparseResidency2Samples
  | sparseResidency4Samples
  | sparseResidency8Samples
  | sparseResidency16Samples
  | sparseResidencyAliased
  | variableMultisampleRate
  | inheritedQueries
  deriving DecidableEq

namespace Feature

/-- The name of a feature in a script. -/
def name : Feature → String
  | robustBufferAccess => "robustBufferAccess"
  | fullDrawIndexUint32 => "fullDrawIndexUint32"
  | imageCubeArray => "imageCubeArray"
  | independentBlend => "independentBlend"
  | geometryShader => "geometryShader"
  | tessellationShader => "tessellationShader"
  | sampleRateShading => "sampleRateShading"
  | dualSrcBlend => "dualSrcBlend"
  | logicOp => "logicOp"
  | multiDrawIndirect => "multiDrawIndirect"
  | drawIndirectFirstInstance => "drawIndirectFirstInstance"
  | depthClamp => "depthClamp"
  | depthBiasClamp => "depthBiasClamp"
  | fillModeNonSolid => "fillModeNonSolid"
  | depthBounds => "depthBounds"
  | wideLines => "wideLines"
  | largePoints => "largePoints"
  | alphaToOne => "alphaToOne"
  | multiViewport => "multiViewport"
  | samplerAnisotropy => "samplerAnisotropy"
  | textureCompressionEtc2 => "textureCompressionETC2"
  | textureCompressionAstcLdr => "textureCompressionASTC_LDR"
  | textureCompressionBc => "textureCompressionBC"
  | occlusionQueryPrecise => "occlusionQueryPrecise"
  | pipelineStatisticsQuery => "pipelineStatisticsQuery"
  | vertexPipelineStoresAndAtomics => "vertexPipelineStoresAndAtomics"
  | fragmentStoresAndAtomics => "fragmentStoresAndAtomics"
  | shaderTessellationAndGeometryPointSize => "shaderTessellationAndGeometryPointSize"
  | shaderImageGatherExtended => "shaderImageGatherExtended"
  | shaderStorageImageExtendedFormats => "shaderStorageImageExtendedFormats"
  | shaderStorageImageMultisample => "shaderStorageImageMultisample"
  | shaderStorageImageReadWithoutFormat => "shaderStorageImageReadWithoutFormat"
  | shaderStorageImageWriteWithoutFormat => "shaderStorageImageWriteWithoutFormat"
  | shaderUniformBufferArrayDynamicIndexing => "shaderUniformBufferArrayDynamicIndexing"
  | shaderSampledImageArrayDynamicIndexing => "shaderSampledImageArrayDynamicIndexing"
  | shaderStorageBufferArrayDynamicIndexing => "shaderStorageBufferArrayDynamicIndexing"
  | shaderStorageImageArrayDynamicIndexing => "shaderStorageImageArrayDynamicIndexing"
  | shaderClipDistance => "shaderClipDistance"
  | shaderCullDistance => "shaderCullDistance"
  | shaderFloat64 => "shaderFloat64"
  | shaderInt64 => "shaderInt64"
  | shaderInt16 => "shaderInt16"
  | shaderResourceResidency => "shaderResourceResidency"
  | shaderResourceMinLod => "shaderResourceMinLod"
  | sparseBinding => "sparseBinding"
  | sparseResidencyBuffer => "sparseResidencyBuffer"
  | sparseResidencyImage2D => "sparseResidencyImage2D"
  | sparseResidencyImage3D => "sparseResidencyImage3D"
  | sparseResidency2Samples => "sparseResidency2Samples"
  | sparseResidency4Samples => "sparseResidency4Samples"
  | sparseResidency8Samples => "sparseResidency8Samples"
  | sparseResidency16Samples => "sparseResidency16Samples"
  | sparseResidencyAliased => "sparseResidencyAliased"
  | variableMultisampleRate => "variableMultisampleRate"
  | inheritedQueries => "inheritedQueries"

/-- The features by name. -/
def table : SortedTable Feature where
  key := name
  entries :=
    #[.alphaToOne,
      .depthBiasClamp,
      .depthBounds,
      .depthClamp,
      .drawIndirectFirstInstance,
      .dualSrcBlend,
      .fillModeNonSolid,
      .fragmentStoresAndAtomics,
      .fullDrawIndexUint32,
      .geometryShader,
      .imageCubeArray,
      .independentBlend,
      .inheritedQueries,
      .largePoints,
      .logicOp,
      .multiDrawIndirect,
      .multiViewport,
      .occlusionQueryPrecise,
      .pipelineStatisticsQuery,
      .robustBufferAccess,
      .sampleRateShading,
      .samplerAnisotropy,
      .shaderClipDistance,
      .shaderCullDistance,
      .shaderFloat64,
      .shaderImageGatherExtended,
      .shaderInt16,
      .shaderInt64,
      .shaderResourceMinLod,
      .shaderResourceResidency,
      .shaderSampledImageArrayDynamicIndexing,
      .shaderStorageBufferArrayDynamicIndexing,
      .shaderStorageImageArrayDynamicIndexing,
      .shaderStorageImageExtendedFormats,
      .shaderStorageImageMultisample,
      .shaderStorageImageReadWithoutFormat,
      .shaderStorageImageWriteWithoutFormat,
      .shaderTessellationAndGeometryPointSize,
      .shaderUniformBufferArrayDynamicIndexing,
      .sparseBinding,
      .sparseResidency16Samples,
      .sparseResidency2Samples,
      .sparseResidency4Samples,
      .sparseResidency8Samples,
      .sparseResidencyAliased,
      .sparseResidencyBuffer,
      .sparseResidencyImage2D,
      .sparseResidencyImage3D,
      .tessellationShader,
      .textureCompressionAstcLdr,
      .textureCompressionBc,
      .textureCompressionEtc2,
      .variableMultisampleRate,
      .vertexPipelineStoresAndAtomics,
      .wideLines]
  sorted := by decide +kernel

/-- The feature with a name. -/
def ofName? (text : String) : Option Feature :=
  table.find? text

end Feature

end GpuScript
